import AstView.Toml.Space

/-!
# Strings in TOML

A string is basic or literal, on one line or on many. Basic strings have escapes, literal ones
have none. A string of many lines stands between three quotes; a newline right after the first
three does not count, an end of a line is one newline whatever it is in the file, and one or two
quotes may stand in it as long as something other than a quote follows, or before the three that
close it.
-/
namespace AstView.Toml

/-- The value of a hexadecimal digit. -/
def hexValue? (char : Char) : Option Nat :=
  if isDigit char then some (char.toNat - '0'.toNat)
  else if 'a' ≤ char ∧ char ≤ 'f' then some (char.toNat - 'a'.toNat + 10)
  else if 'A' ≤ char ∧ char ≤ 'F' then some (char.toNat - 'A'.toNat + 10)
  else none

/-- The number that digits spell in a base. -/
def numberOf (base : Nat) (digits : List Char) : Nat :=
  digits.foldl (fun value char => value * base + (hexValue? char).getD 0) 0

/-- Reads a number of characters that have a property. -/
def exactly (property : Char → Bool) : Nat → Scan (List Char)
  | 0 => pure []
  | count + 1 => do
    let head ← Scan.one property
    let rest ← exactly property count
    return head :: rest

/-- The character with a code point, which must not be a surrogate. -/
def scalar? (value : Nat) : Option Char :=
  if value.isValidChar then some (Char.ofNat value) else none

/-- The code point of a character in hexadecimal digits, all of which have to be there. -/
def codePoint (count : Nat) : Scan Char := do
  let digits ← exactly (fun char => (hexValue? char).isSome) count
  Scan.ofOption (scalar? (numberOf 16 digits))

/-- A backslash and what it stands for. -/
def escape : Scan Char := do
  let _ ← Scan.char '\\'
  match ← Scan.one fun _ => true with
  | 'b' => return '\x08'
  | 'f' => return '\x0c'
  | 'n' => return '\n'
  | 'r' => return '\r'
  | 't' => return '\t'
  | '\\' => return '\\'
  | '"' => return '"'
  | 'u' => codePoint 4
  | 'U' => codePoint 8
  | _ => Scan.ofOption none

/-- A character that stands for itself in a basic string. -/
def isBasic (char : Char) : Bool :=
  char == '\t' || (decide (' ' ≤ char) && char != '"' && char != '\\' && char != '\x7f')

/-- A character that stands for itself in a literal string. -/
def isLiteral (char : Char) : Bool :=
  char == '\t' || (decide (' ' ≤ char) && char != '\'' && char != '\x7f')

/-- A basic string on one line. -/
def basicString : Scan String := do
  let _ ← Scan.char '"'
  let chars ← Scan.many (Scan.either (Scan.one isBasic) escape)
  let _ ← Scan.char '"'
  return String.ofList chars

/-- A literal string on one line. -/
def literalString : Scan String := do
  let _ ← Scan.char '\''
  let chars ← Scan.span isLiteral
  let _ ← Scan.char '\''
  return String.ofList chars

/-- A backslash at the end of a line takes the end of the line and all blanks and ends of lines
after it away. -/
def lineContinuation : Scan (List Char) := do
  let _ ← Scan.char '\\'
  let _ ← blanks
  let _ ← newline
  let _ ← Scan.many (Scan.either (Scan.one isBlank) newline)
  return []

/-- Three quotes of a kind. -/
def threeQuotes (quote : Char) : Scan Unit := Scan.word [quote, quote, quote]

/-- One or two quotes in front of something. -/
def quotesBefore (quote : Char) (next : Scan Unit) : Scan (List Char) :=
  Scan.either
    (do
      Scan.word [quote, quote]
      Scan.follows next
      return [quote, quote])
    (do
      Scan.word [quote]
      Scan.follows next
      return [quote])

/-- A string of many lines with a kind of quotes and of content. -/
def multiLine (quote : Char) (content : Scan (List Char)) : Scan String := do
  threeQuotes quote
  let _ ← Scan.maybe newline
  let inner ← Scan.many (Scan.either content (quotesBefore quote (do let _ ← content)))
  let last ← Scan.maybe (quotesBefore quote (threeQuotes quote))
  threeQuotes quote
  return String.ofList (inner.flatten ++ last.getD [])

/-- A basic string of many lines. -/
def multiLineBasic : Scan String :=
  multiLine '"' (Scan.firstOf [
    (do return [← Scan.one isBasic]),
    lineContinuation,
    (do return [← escape]),
    (do return [← newline])])

/-- A literal string of many lines. -/
def multiLineLiteral : Scan String :=
  multiLine '\'' (Scan.firstOf [
    (do return [← Scan.one isLiteral]),
    (do return [← newline])])

/-- A string of any kind. -/
def anyString : Scan String :=
  Scan.firstOf [multiLineBasic, basicString, multiLineLiteral, literalString]

end AstView.Toml

import AstView.Json.Quoted
import AstView.Proofs.Kind

/-!
# The tokens of JSON

A JSON text is cut into tokens, with the space between them left out. A text, a number, a truth
value or a mark is read back from its characters as one token, whatever comes behind it; only a
number has to end there.

The reader knows the fragment of JSON that the views need: no number has a sign, a fraction or an
exponent, `null` does not occur, and no escape stands for half of a surrogate pair. In that
fragment it accepts what RFC 8259 accepts and nothing else: four characters are space, control
characters in a text are escaped, and a number other than zero does not begin with a zero.
-/
namespace AstView.Json

/-! ## Texts -/

/-- The character that stands for a letter behind a backslash. -/
def escaped? : Char → Option Char
  | '"' => some '"'
  | '\\' => some '\\'
  | '/' => some '/'
  | 'b' => some '\x08'
  | 'f' => some '\x0c'
  | 'n' => some '\n'
  | 'r' => some '\r'
  | 't' => some '\t'
  | _ => none

/-- The number that hexadecimal digits in either case stand for. -/
def hexNumber? (digits : List Char) : Option Nat :=
  digits.foldlM (fun number digit => (Bytes.digit? digit.toLower).map (16 * number + ·)) 0

/-- The character of four hexadecimal digits. -/
def codePoint? (digits : List Char) : Option Char := do
  let code ← hexNumber? digits
  if code.isValidChar then some (Char.ofNat code) else none

/-- Reads a text up to the quote that closes it, and leaves what follows. -/
def textBody : List Char → Option (List Char × List Char)
  | [] => none
  | '"' :: rest => some ([], rest)
  | ['\\'] => none
  | '\\' :: 'u' :: first :: second :: third :: fourth :: rest =>
    (codePoint? [first, second, third, fourth]).bind fun char =>
      (textBody rest).map (Prod.map (char :: ·) id)
  | '\\' :: letter :: rest =>
    (escaped? letter).bind fun char => (textBody rest).map (Prod.map (char :: ·) id)
  | char :: rest =>
    if char.toNat < 0x20 then none else (textBody rest).map (Prod.map (char :: ·) id)

/-- A control character is read back from its four digits. -/
theorem codePoint?_control {char : Char} (control : char.toNat < 0x20) :
    codePoint? ('0' :: '0' :: Bytes.hexPair (byte char.toNat)) = some char := by
  have all : ∀ code : Fin 0x20,
      codePoint? ('0' :: '0' :: Bytes.hexPair (byte code)) = some (Char.ofNat code) := by decide
  have own := all ⟨char.toNat, control⟩
  rw [Char.ofNat_toNat] at own
  exact own

/-- What is written for a character is a backslash with the letter for it, the four digits of a
control character, or the character itself. -/
theorem quoteChar_cases (char : Char) :
    (∃ letter, escaped? letter = some char ∧ quoteChar char = ['\\', letter]) ∨
    (char.toNat < 0x20 ∧
      quoteChar char = '\\' :: 'u' :: '0' :: '0' :: Bytes.hexPair (byte char.toNat)) ∨
    (0x20 ≤ char.toNat ∧ char ≠ '"' ∧ char ≠ '\\' ∧ quoteChar char = [char]) := by
  unfold quoteChar
  by_cases quote : char = '"'
  · exact .inl ⟨'"', by rw [quote]; rfl, if_pos quote⟩
  by_cases backslash : char = '\\'
  · subst backslash
    exact .inl ⟨'\\', rfl, rfl⟩
  by_cases newline : char = '\n'
  · subst newline
    exact .inl ⟨'n', rfl, rfl⟩
  by_cases carriageReturn : char = '\r'
  · subst carriageReturn
    exact .inl ⟨'r', rfl, rfl⟩
  by_cases tab : char = '\t'
  · subst tab
    exact .inl ⟨'t', rfl, rfl⟩
  by_cases backspace : char = '\x08'
  · subst backspace
    exact .inl ⟨'b', rfl, rfl⟩
  by_cases formFeed : char = '\x0c'
  · subst formFeed
    exact .inl ⟨'f', rfl, rfl⟩
  rw [if_neg quote, if_neg backslash, if_neg newline, if_neg carriageReturn, if_neg tab,
    if_neg backspace, if_neg formFeed]
  by_cases control : char.toNat < 0x20
  · exact .inr (.inl ⟨control, if_pos control⟩)
  · exact .inr (.inr ⟨Nat.le_of_not_lt control, quote, backslash, if_neg control⟩)

/-- What is written for a character is read as that character. -/
theorem textBody_quoteChar (char : Char) (rest : List Char) :
    textBody (quoteChar char ++ rest) = (textBody rest).map (Prod.map (char :: ·) id) := by
  obtain ⟨letter, named, written⟩ | ⟨control, written⟩ | ⟨printed, quote, backslash, written⟩ :=
    quoteChar_cases char
  · have other : letter ≠ 'u' := by
      rintro rfl
      cases named
    rw [written]
    simp [textBody, other, named]
  · have digits := codePoint?_control control
    rw [Bytes.hexPair] at digits
    rw [written, Bytes.hexPair]
    simp only [List.cons_append, List.nil_append, textBody, digits, Option.bind_some]
  · rw [written, List.singleton_append]
    simp [textBody, backslash, Nat.not_lt.2 printed]

/-- A text is read back from between its quotes. -/
theorem textBody_quote (text rest : List Char) :
    textBody (text.flatMap quoteChar ++ '"' :: rest) = some (text, rest) := by
  induction text with
  | nil => rfl
  | cons char others ih =>
    rw [List.flatMap_cons, List.append_assoc, textBody_quoteChar, ih]
    rfl

/-! ## Numbers -/

/-- Decimal digits of which the first is no superfluous zero. -/
def Plain (digits : List Char) : Prop := digits.head? = some '0' → digits = ['0']

instance (digits : List Char) : Decidable (Plain digits) :=
  inferInstanceAs (Decidable (_ → _))

/-- Reads a number and leaves what follows its digits. -/
def numberBody (all : List Char) : Option (Nat × List Char) :=
  let digits := all.takeWhile Char.isDigit
  if Plain digits then (Text.number? digits).map fun value => (value, all.drop digits.length)
  else none

/-- Whatever goes on with something other than a digit ends a number. -/
def EndsNumber (rest : List Char) : Prop := ∀ char more, rest = char :: more → char.isDigit = false

/-- A number is written without superfluous zeros. -/
theorem plain_decimal (number : Nat) : Plain (Nat.toDigits 10 number) := by
  induction number using Nat.strongRecOn with
  | ind number ih =>
    by_cases small : number < 10
    · have all : ∀ digit : Fin 10, Plain [Nat.digitChar digit] := by decide
      rw [Nat.toDigits_of_lt_base small]
      exact all ⟨number, small⟩
    · have large : 10 ≤ number := by omega
      have front := ih (number / 10) (by omega)
      obtain ⟨first, others, digits⟩ :=
        List.exists_cons_of_ne_nil (Nat.toDigits_ne_nil (b := 10) (n := number / 10))
      rw [Nat.toDigits_of_base_le (by decide) large, digits]
      rw [digits] at front
      intro zero
      -- A number whose digits are a single zero is zero, and there are ten times as many here.
      have single := front zero
      have value := Nat.ofDigitChars_ten_toDigits (n := number / 10)
      rw [digits, single] at value
      change 0 = number / 10 at value
      omega

/-- A number is read back from its digits. -/
theorem numberBody_decimal (number : Nat) {rest : List Char} (ends : EndsNumber rest) :
    numberBody ((toString number).toList ++ rest) = some (number, rest) := by
  have digits : ∀ char ∈ (toString number).toList, char.isDigit = true :=
    fun _ => Text.isDigit_decimal
  have stop : rest.takeWhile Char.isDigit = [] := by
    cases rest with
    | nil => rfl
    | cons char more =>
      rw [List.takeWhile_cons, ends char more rfl]
      rfl
  have taken : ((toString number).toList ++ rest).takeWhile Char.isDigit =
      (toString number).toList := by
    rw [List.takeWhile_append_of_pos digits, stop, List.append_nil]
  have plain : Plain (toString number).toList := by
    rw [Nat.toString_eq_repr, Nat.toList_repr]
    exact plain_decimal number
  simp only [numberBody, taken, if_pos plain, Text.number?_decimal, Option.map_some,
    List.drop_left]

/-! ## Tokens -/

/-- What a JSON text is made of. -/
inductive Token where
  /-- The bracket that opens an array. -/
  | openArray
  /-- The bracket that closes an array. -/
  | closeArray
  /-- The brace that opens an object. -/
  | openObject
  /-- The brace that closes an object. -/
  | closeObject
  /-- What stands between two items or members. -/
  | comma
  /-- What stands between the name and the value of a member. -/
  | colon
  /-- A text. -/
  | text (text : String)
  /-- A number. -/
  | number (value : Nat)
  /-- A truth value. -/
  | flag (value : Bool)
  deriving Repr, DecidableEq

/-- The characters that may stand between tokens. -/
def isSpace (char : Char) : Bool := char = ' ' || char = '\t' || char = '\n' || char = '\r'

/-- The token of a single character. -/
def mark? : Char → Option Token
  | '[' => some .openArray
  | ']' => some .closeArray
  | '\x7b' => some .openObject
  | '\x7d' => some .closeObject
  | ',' => some .comma
  | ':' => some .colon
  | _ => none

/-- Reads a text, a truth value or a number, and leaves what follows it. -/
def scalar? : List Char → Option (Token × List Char)
  | '"' :: rest => (textBody rest).map fun (text, left) => (.text (String.ofList text), left)
  | 't' :: 'r' :: 'u' :: 'e' :: rest => some (.flag true, rest)
  | 'f' :: 'a' :: 'l' :: 's' :: 'e' :: rest => some (.flag false, rest)
  | all => (numberBody all).map fun (value, left) => (.number value, left)

/-- Cuts a text into tokens. What a scalar leaves is never longer than what was given; that is
looked at so that the reading is seen to end. -/
def lex (all : List Char) : Option (List Token) :=
  match all with
  | [] => some []
  | first :: rest =>
    if isSpace first then lex rest
    else
      match mark? first with
      | some token => (lex rest).map (token :: ·)
      | none =>
        match scalar? (first :: rest) with
        | none => none
        | some (token, left) =>
          if left.length ≤ rest.length then (lex left).map (token :: ·) else none
termination_by all.length

/-- Space is left out. -/
theorem lex_space {space : List Char} (blank : ∀ char ∈ space, isSpace char = true)
    (rest : List Char) : lex (space ++ rest) = lex rest := by
  induction space with
  | nil => rfl
  | cons char others ih =>
    rw [List.cons_append, lex, if_pos (blank char List.mem_cons_self)]
    exact ih fun other inside => blank other (List.mem_cons_of_mem _ inside)

/-- A bracket, a comma or a colon is a token of its own. -/
theorem lex_mark {char : Char} {token : Token} (found : mark? char = some token)
    (rest : List Char) : lex (char :: rest) = (lex rest).map (token :: ·) := by
  have solid : isSpace char = false := by
    unfold mark? at found
    split at found
    case h_7 => cases found
    all_goals rfl
  rw [lex, if_neg (by rw [solid]; exact Bool.false_ne_true)]
  simp only [found]

/-- A scalar is a token if it does not begin like anything else. -/
theorem lex_scalar {first : Char} {rest left : List Char} {token : Token}
    (solid : isSpace first = false) (plain : mark? first = none)
    (found : scalar? (first :: rest) = some (token, left)) (shorter : left.length ≤ rest.length) :
    lex (first :: rest) = (lex left).map (token :: ·) := by
  rw [lex, if_neg (by rw [solid]; exact Bool.false_ne_true)]
  simp only [plain, found, if_pos shorter]

/-- A text is a token. -/
theorem lex_quote (text : String) (rest : List Char) :
    lex ((quote text).toList ++ rest) = (lex rest).map (.text text :: ·) := by
  have chars : (quote text).toList ++ rest =
      '"' :: (text.toList.flatMap quoteChar ++ '"' :: rest) := by
    simp [quote]
  have found : scalar? ('"' :: (text.toList.flatMap quoteChar ++ '"' :: rest)) =
      some (.text text, rest) := by
    simp only [scalar?, textBody_quote, Option.map_some, String.ofList_toList]
  rw [chars]
  apply lex_scalar rfl rfl found
  simp only [List.length_append, List.length_cons]
  omega

/-- A truth value is a token. -/
theorem lex_flag (value : Bool) (rest : List Char) :
    lex ((if value then "true" else "false").toList ++ rest) =
      (lex rest).map (.flag value :: ·) := by
  cases value with
  | true =>
    have shorter : rest.length ≤ ('r' :: 'u' :: 'e' :: rest).length := by
      simp only [List.length_cons]
      omega
    exact lex_scalar rfl rfl rfl shorter
  | false =>
    have shorter : rest.length ≤ ('a' :: 'l' :: 's' :: 'e' :: rest).length := by
      simp only [List.length_cons]
      omega
    exact lex_scalar rfl rfl rfl shorter

/-- A number is a token if no digit follows it. -/
theorem lex_decimal (number : Nat) {rest : List Char} (ends : EndsNumber rest) :
    lex ((toString number).toList ++ rest) = (lex rest).map (.number number :: ·) := by
  have read := numberBody_decimal number ends
  obtain ⟨first, others, digits⟩ : ∃ first others, (toString number).toList = first :: others := by
    apply List.exists_cons_of_ne_nil
    rw [Nat.toString_eq_repr, Nat.toList_repr]
    exact Nat.toDigits_ne_nil
  have inside : first ∈ (toString number).toList := by
    rw [digits]
    exact List.mem_cons_self
  have digit : first.isDigit = true := Text.isDigit_decimal inside
  -- A digit is no space and no mark, and neither a text nor a truth value begins with one.
  have other (char : Char) (letter : char.isDigit = false) : first ≠ char := by
    rintro rfl
    rw [digit] at letter
    cases letter
  have solid : isSpace first = false := by
    simp [isSpace, other ' ' rfl, other '\t' rfl, other '\n' rfl, other '\r' rfl]
  have plain : mark? first = none := by
    unfold mark?
    split
    case h_7 => rfl
    all_goals exact absurd rfl (other _ rfl)
  have found : scalar? (first :: (others ++ rest)) = some (.number number, rest) := by
    rw [digits, List.cons_append] at read
    unfold scalar?
    split
    · rename_i same
      exact absurd (List.cons.inj same).1 (other _ rfl)
    · rename_i same
      exact absurd (List.cons.inj same).1 (other _ rfl)
    · rename_i same
      exact absurd (List.cons.inj same).1 (other _ rfl)
    · rw [read]
      rfl
  rw [digits, List.cons_append]
  apply lex_scalar solid plain found
  rw [List.length_append]
  omega

end AstView.Json

import AstView.Scan

/-!
# Blanks, comments and ends of lines in TOML

A line may end in a comment. The end of a line is a newline, with a carriage return before it or
without; a carriage return by itself is none.
-/
namespace AstView.Toml

/-- A space or a tab. -/
def isBlank (char : Char) : Bool := char == ' ' || char == '\t'

/-- A decimal digit. -/
def isDigit (char : Char) : Bool := decide ('0' ≤ char) && decide (char ≤ '9')

/-- Spaces and tabs. -/
def blanks : Scan (List Char) := Scan.span isBlank

/-- The end of a line, which is read as one newline. -/
def newline : Scan Char :=
  Scan.either (Scan.char '\n') (do
    let _ ← Scan.char '\r'
    Scan.char '\n')

/-- A comment up to the end of its line. It has no control characters but tabs. -/
def comment : Scan Unit := do
  let _ ← Scan.char '#'
  let _ ← Scan.span fun char =>
    char == '\t' || (decide (' ' ≤ char) && char != '\x7f')

/-- What may stand between the items of an array: spaces, ends of lines and comments. -/
def gap : Scan Unit := do
  let _ ← Scan.many (Scan.firstOf [
    (do let _ ← Scan.spanSome isBlank),
    (do let _ ← newline),
    comment])

/-- The end of a line that may have a comment, or of the document. -/
def lineEnd : Scan Unit := do
  let _ ← blanks
  let _ ← Scan.maybe comment
  Scan.either (do let _ ← newline) Scan.atEnd

end AstView.Toml

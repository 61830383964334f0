/-!
# Labels in quotes

A label stands between double quotes. Escaping puts a backslash before every backslash and
every double quote and writes a newline as a backslash and `n`, so the label ends at the quote
that closes it. One pass over the characters does all three at once.
-/
namespace AstView.Dot

/-- What is written for a character of an escaped label. -/
def escapeChar (char : Char) : List Char :=
  if char = '\\' then ['\\', '\\']
  else if char = '"' then ['\\', '"']
  else if char = '\n' then ['\\', 'n']
  else [char]

/-- A label that can stand between double quotes. -/
def escapeLabel (label : String) : String := String.ofList (label.toList.flatMap escapeChar)

end AstView.Dot

import AstView.Text.Table.DefaultIgnorable
import AstView.Text.Table.GraphemeExtend
import AstView.Text.Table.Unprintable

/-!
# Quoted text

A text that a message quotes stands between double quotes, and every character in it can be
seen: a quote and a backslash have a backslash before them, the usual control characters have a
letter, and what has no picture or would join the character before it is written as its code
point in hexadecimal.
-/
namespace AstView.Text

/-- Whether a character is one of the two halfwidth sound marks of katakana. They extend the
letter before them, but stand beside it like a letter. -/
def isSoundMark (char : Char) : Bool := char == '\uFF9E' || char == '\uFF9F'

/-- Whether a character cannot be seen by itself. -/
def isUnseen (char : Char) : Bool :=
  (graphemeExtend.contains char && !isSoundMark char)
    || unprintable.contains char || defaultIgnorable.contains char

/-- What is written for a character of a quoted text. -/
def quotedChar (char : Char) : List Char :=
  if char = '\x00' then ['\\', '0']
  else if char = '\t' then ['\\', 't']
  else if char = '\r' then ['\\', 'r']
  else if char = '\n' then ['\\', 'n']
  else if char = '\\' then ['\\', '\\']
  else if char = '"' then ['\\', '"']
  else if isUnseen char then
    ['\\', 'u', '\x7b'] ++ Nat.toDigits 16 char.toNat ++ ['\x7d']
  else [char]

/-- A text between double quotes. -/
def quoted (text : String) : String :=
  String.ofList ('"' :: (text.toList.flatMap quotedChar ++ ['"']))

end AstView.Text

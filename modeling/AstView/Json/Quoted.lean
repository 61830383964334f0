import AstView.Bytes

/-!
# Quoted text

A JSON text stands between double quotes. Inside, a quote, a backslash and the control
characters below U+0020 are written as escapes: five of the control characters have a letter,
the others are written as four hexadecimal digits. Everything else stands for itself.
-/
namespace AstView.Json

/-- What is written for a character of a quoted text. -/
def quoteChar (char : Char) : List Char :=
  if char = '"' then ['\\', '"']
  else if char = '\\' then ['\\', '\\']
  else if char = '\n' then ['\\', 'n']
  else if char = '\r' then ['\\', 'r']
  else if char = '\t' then ['\\', 't']
  else if char = '\x08' then ['\\', 'b']
  else if char = '\x0c' then ['\\', 'f']
  else if char.toNat < 0x20 then ['\\', 'u', '0', '0'] ++ Bytes.hexPair (byte char.toNat)
  else [char]

/-- A text between double quotes. -/
def quote (text : String) : String :=
  String.ofList ('"' :: (text.toList.flatMap quoteChar ++ ['"']))

end AstView.Json

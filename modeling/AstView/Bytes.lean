/-!
# Bytes

A file, a payload and a rendering are all lists of bytes in file order. Two hexadecimal
digits name one byte, the high half first.
-/
namespace AstView

/-- Bytes in file order. -/
abbrev Bytes := List UInt8

/-- One byte, out of a number below 256. -/
abbrev byte (value : Nat) : UInt8 := UInt8.ofNat value

namespace Bytes

/-- The lowercase hexadecimal digit of a number below sixteen. -/
def hexDigit (digit : Nat) : Char :=
  if digit < 10 then Char.ofNat (48 + digit) else Char.ofNat (87 + digit)

/-- A byte is written as its high half and then its low half. -/
def hexPair (byte : UInt8) : List Char :=
  [hexDigit (byte.toNat / 16), hexDigit (byte.toNat % 16)]

/-- Bytes are written as two lowercase hexadecimal digits each, with nothing between them. -/
def toHex (bytes : Bytes) : String := String.ofList (bytes.flatMap hexPair)

end Bytes

end AstView

import AstView.Bytes

/-!
# Variable-length numbers

A number below 2^64 is written seven bits at a time from the low end. Every byte but the last
has its top bit set, so a number takes one to ten bytes. A reader accepts longer spellings of
the same number as well (`80 00` is zero), but never more than ten bytes, and a tenth byte
above 1 would pass 2^64.
-/
namespace AstView.Wire.Varint

/-- The bytes of a number, low end first. -/
def encode (value : Nat) : Bytes :=
  if value < 128 then [byte value]
  else byte (128 + value % 128) :: encode (value / 128)
termination_by value

/-- How many bytes a number below 2^64 takes, out of the place of its highest bit. -/
def size (value : Nat) : Nat := (value.log2 * 9 + 73) / 64

/-- Reads a number from the front when `place` of its bytes have been read before, and returns
what follows it. -/
def decodeAt (place : Nat) : Bytes → Option (Nat × Bytes)
  | [] => none
  | next :: rest =>
    if place = 9 then
      if next.toNat < 2 then some (next.toNat, rest) else none
    else if next.toNat < 128 then some (next.toNat, rest)
    else
      match decodeAt (place + 1) rest with
      | none => none
      | some (high, rest) => some (next.toNat - 128 + 128 * high, rest)

/-- Reads a number from the front and returns what follows it. -/
def decode (bytes : Bytes) : Option (Nat × Bytes) := decodeAt 0 bytes

/-- A number read takes at least one byte. -/
theorem decodeAt_length {place value : Nat} {bytes rest : Bytes}
    (read : decodeAt place bytes = some (value, rest)) : rest.length < bytes.length := by
  induction bytes generalizing place value with
  | nil => simp [decodeAt] at read
  | cons next tail hypothesis =>
    rw [decodeAt] at read
    split at read
    · split at read
      · cases read; simp
      · cases read
    · split at read
      · cases read; simp
      · split at read
        · cases read
        · rename_i high left inner
          cases read
          have := hypothesis inner
          simp only [List.length_cons]
          omega

/-- A number read takes at least one byte. -/
theorem decode_length {value : Nat} {bytes rest : Bytes}
    (read : decode bytes = some (value, rest)) : rest.length < bytes.length :=
  decodeAt_length read

end AstView.Wire.Varint

import AstView.Wire.Error
import AstView.Wire.Varint

/-!
# Keys and payloads

A message is a row of fields. Each begins with a key, a number that holds the field's number
and its layout, and goes on with a payload laid out that way. A reader takes a key or a payload
from the front of a byte list and returns what follows; it never returns more bytes than it was
given, and a key takes at least one.

Groups are payloads that hold fields of their own up to an end key of the same number. No
message of the schema has one, so they are only ever skipped.
-/
namespace AstView.Wire

/-- The number of a field and how it is laid out. -/
structure Key where
  /-- The number of the field in its message. -/
  field : Nat
  /-- How its payload is laid out. -/
  wireType : WireType
  deriving Repr, DecidableEq

/-- Reads a number from the front. -/
def readVarint (bytes : Bytes) : Except Fault (Nat × Bytes) :=
  match Varint.decode bytes with
  | none => .error .varint
  | some read => .ok read

/-- Reads a length and checks that so many bytes follow it. -/
def readLength (bytes : Bytes) : Except Fault (Nat × Bytes) :=
  match readVarint bytes with
  | .error fault => .error fault
  | .ok (length, rest) => if rest.length < length then .error .underflow else .ok (length, rest)

/-- Leaves out so many bytes from the front. -/
def dropBytes (count : Nat) (bytes : Bytes) : Except Fault Bytes :=
  if bytes.length < count then .error .underflow else .ok (bytes.drop count)

namespace Key

/-- A key as a number: the layout in the low three bits, the field number above them. -/
def code (key : Key) : Nat := 8 * key.field + key.wireType.code

/-- The bytes of a key. -/
def encode (key : Key) : Bytes := Varint.encode key.code

/-- Keys are below two to the power of 32. -/
def keyCount : Nat := 4294967296

/-- Reads a key from the front. -/
def decode (bytes : Bytes) : Except Fault (Key × Bytes) :=
  match readVarint bytes with
  | .error fault => .error fault
  | .ok (value, rest) =>
    if keyCount ≤ value then .error (.key value)
    else
      match WireType.ofCode? (value % 8) with
      | none => .error (.wireType (value % 8))
      | some wireType =>
        if value / 8 = 0 then .error .fieldNumber else .ok (⟨value / 8, wireType⟩, rest)

/-- A field of the schema is read only in the layout of the schema. -/
def expect (key : Key) (expected : WireType) : Except Fault Unit :=
  if key.wireType = expected then .ok () else .error (.mismatch key.wireType expected)

/-- Reads the payload of a field that the schema declares as a number. -/
def readNumber (key : Key) (bytes : Bytes) : Except Fault (Nat × Bytes) :=
  match key.expect .varint with
  | .error fault => .error fault
  | .ok () => readVarint bytes

/-- Reads the payload of a field that the schema declares as bytes. -/
def readBlock (key : Key) (bytes : Bytes) : Except Fault (Bytes × Bytes) :=
  match key.expect .lengthDelimited with
  | .error fault => .error fault
  | .ok () =>
    match readLength bytes with
    | .error fault => .error fault
    | .ok (length, rest) => .ok (rest.take length, rest.drop length)

/-- Reads the length of a field that the schema declares as a message, and returns how many
bytes must be left at the end of that message. -/
def enter (key : Key) (bytes : Bytes) : Except Fault (Nat × Bytes) :=
  match key.expect .lengthDelimited with
  | .error fault => .error fault
  | .ok () =>
    match readLength bytes with
    | .error fault => .error fault
    | .ok (length, rest) => .ok (rest.length - length, rest)

end Key

/-- Leaves out a payload that is no group. -/
def skipPlain (wireType : WireType) (bytes : Bytes) : Except Fault Bytes :=
  match wireType with
  | .varint =>
    match readVarint bytes with
    | .error fault => .error fault
    | .ok (_, rest) => .ok rest
  | .fixed32 => dropBytes 4 bytes
  | .fixed64 => dropBytes 8 bytes
  | .lengthDelimited =>
    match readLength bytes with
    | .error fault => .error fault
    | .ok (length, rest) => .ok (rest.drop length)
  | .startGroup => .error .endGroup
  | .endGroup => .error .endGroup

/-- A number read takes at least one byte. -/
theorem readVarint_length {value : Nat} {bytes rest : Bytes}
    (read : readVarint bytes = .ok (value, rest)) : rest.length < bytes.length := by
  unfold readVarint at read
  split at read
  · cases read
  · rename_i pair found
    cases read
    exact Varint.decode_length found

/-- A length read takes at least one byte and reaches no further than the bytes after it. -/
theorem readLength_length {value : Nat} {bytes rest : Bytes}
    (read : readLength bytes = .ok (value, rest)) :
    rest.length < bytes.length ∧ value ≤ rest.length := by
  unfold readLength at read
  split at read
  · cases read
  · rename_i found
    split at read
    · cases read
    · cases read
      exact ⟨readVarint_length found, by omega⟩

/-- Leaving bytes out never adds any. -/
theorem dropBytes_length {count : Nat} {bytes rest : Bytes}
    (read : dropBytes count bytes = .ok rest) : rest.length ≤ bytes.length := by
  unfold dropBytes at read
  split at read
  · cases read
  · cases read
    simp

/-- A key read takes at least one byte. -/
theorem Key.decode_length {key : Key} {bytes rest : Bytes}
    (read : Key.decode bytes = .ok (key, rest)) : rest.length < bytes.length := by
  unfold Key.decode at read
  split at read
  · cases read
  · rename_i found
    split at read
    · cases read
    · split at read
      · cases read
      · split at read
        · cases read
        · cases read
          exact readVarint_length found

/-- A number payload takes at least one byte. -/
theorem Key.readNumber_length {key : Key} {value : Nat} {bytes rest : Bytes}
    (read : key.readNumber bytes = .ok (value, rest)) : rest.length < bytes.length := by
  unfold Key.readNumber at read
  split at read
  · cases read
  · exact readVarint_length read

/-- A byte payload takes at least the byte of its length. -/
theorem Key.readBlock_length {key : Key} {block : Bytes} {bytes rest : Bytes}
    (read : key.readBlock bytes = .ok (block, rest)) : rest.length < bytes.length := by
  unfold Key.readBlock at read
  split at read
  · cases read
  · split at read
    · cases read
    · rename_i found
      cases read
      have := (readLength_length found).1
      simp only [List.length_drop]
      omega

/-- A message ends where its length says, among the bytes after that length. -/
theorem Key.enter_length {key : Key} {limit : Nat} {bytes rest : Bytes}
    (read : key.enter bytes = .ok (limit, rest)) :
    rest.length < bytes.length ∧ limit ≤ rest.length := by
  unfold Key.enter at read
  split at read
  · cases read
  · split at read
    · cases read
    · rename_i found
      cases read
      exact ⟨(readLength_length found).1, by omega⟩

/-- Leaving a payload out never adds bytes. -/
theorem skipPlain_length {wireType : WireType} {bytes rest : Bytes}
    (read : skipPlain wireType bytes = .ok rest) : rest.length ≤ bytes.length := by
  unfold skipPlain at read
  split at read
  · split at read
    · cases read
    · rename_i found
      cases read
      exact Nat.le_of_lt (readVarint_length found)
  · exact dropBytes_length read
  · exact dropBytes_length read
  · split at read
    · cases read
    · rename_i found
      cases read
      have := (readLength_length found).1
      simp only [List.length_drop]
      omega
  · cases read
  · cases read

/-- Leaves out the rest of a group, given its field number and those of the groups around it
that are to be left out with it, the innermost first. -/
def skipGroup (field : Nat) (around : List Nat) (bytes : Bytes) : Except Fault Bytes :=
  match _found : Key.decode bytes with
  | .error fault => .error fault
  | .ok (key, rest) =>
    match key.wireType with
    | .startGroup => skipGroup key.field (field :: around) rest
    | .endGroup =>
      if key.field = field then
        match around with
        | [] => .ok rest
        | outer :: more => skipGroup outer more rest
      else .error .endGroup
    | wireType =>
      match _skipped : skipPlain wireType rest with
      | .error fault => .error fault
      | .ok rest => skipGroup field around rest
termination_by bytes.length
decreasing_by
  · exact Key.decode_length _found
  · exact Key.decode_length _found
  · exact Nat.lt_of_le_of_lt (skipPlain_length _skipped) (Key.decode_length _found)

/-- Leaves out the payload of a field that the schema does not know. -/
def Key.skip (key : Key) (bytes : Bytes) : Except Fault Bytes :=
  match key.wireType with
  | .startGroup => skipGroup key.field [] bytes
  | wireType => skipPlain wireType bytes

/-- The rest of a group takes at least the byte of its end key. -/
theorem skipGroup_length {field : Nat} {around : List Nat} {bytes rest : Bytes}
    (read : skipGroup field around bytes = .ok rest) : rest.length < bytes.length := by
  fun_induction skipGroup field around bytes generalizing rest with
  | case1 => cases read
  | case2 _ _ _ _ _ found _ hypothesis =>
    exact Nat.lt_trans (hypothesis read) (Key.decode_length found)
  | case3 =>
    cases read
    exact Key.decode_length (by assumption)
  | case4 =>
    rename_i hypothesis
    exact Nat.lt_trans (hypothesis read) (Key.decode_length (by assumption))
  | case5 => cases read
  | case6 => cases read
  | case7 =>
    rename_i hypothesis
    exact Nat.lt_trans (hypothesis read)
      (Nat.lt_of_le_of_lt (skipPlain_length (by assumption)) (Key.decode_length (by assumption)))

/-- Leaving a payload out never adds bytes. -/
theorem Key.skip_length {key : Key} {bytes rest : Bytes}
    (read : key.skip bytes = .ok rest) : rest.length ≤ bytes.length := by
  unfold Key.skip at read
  split at read
  · exact Nat.le_of_lt (skipGroup_length read)
  · exact skipPlain_length read

end AstView.Wire

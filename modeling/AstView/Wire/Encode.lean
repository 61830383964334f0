import AstView.Text.Utf8
import AstView.Wire.Key
import AstView.Wire.Message

/-!
# Writing messages

Fields are written by number. A tag of zero and an empty name are left out, because a reader
takes them as such anyway; a payload slot that is set and a value that is present are always
written, even when they hold the default. A tag is written as the 64-bit number with the same
sign, so a negative tag takes ten bytes.

`encodedLength` gives the number of bytes without writing them. It is what stands in front of a
nested message as its length.
-/
namespace AstView.Wire

/-- How many numbers 64 bits hold. -/
def wordCount : Int := 18446744073709551616

/-- The number that stands for a tag on the wire, with the sign in all upper bits. -/
def tagNumber (tag : Int32) : Nat := (tag.toInt % wordCount).toNat

/-- The length of a field laid out as a number. -/
def numberLength (field value : Nat) : Nat :=
  Varint.size (Key.code ⟨field, .varint⟩) + Varint.size value

/-- The length of a field laid out as a length and that many bytes. -/
def blockLength (field payload : Nat) : Nat :=
  Varint.size (Key.code ⟨field, .lengthDelimited⟩) + Varint.size payload + payload

/-- The length of the field of a tag. -/
def tagLength (tag : Int32) : Nat := if tag = 0 then 0 else numberLength 1 (tagNumber tag)

/-- The length of the field of a slot. -/
def slotLength : Option Slot → Nat
  | none => 0
  | some (.flag value) => numberLength 2 value.toNat
  | some (.unsigned value) => numberLength 3 value.toNat
  | some (.raw value) => blockLength 4 value.length

mutual

/-- The length of the fields of a value. -/
def Value.encodedLength : Value → Nat
  | ⟨tag, slot, children⟩ => tagLength tag + slotLength slot + childrenLength children

/-- The length of the fields of some children. -/
def childrenLength : List Value → Nat
  | [] => 0
  | child :: rest => blockLength 5 child.encodedLength + childrenLength rest

end

/-- The length of the fields of an entry. -/
def Entry.encodedLength (entry : Entry) : Nat :=
  (if entry.name = "" then 0 else blockLength 1 entry.name.utf8ByteSize)
    + match entry.value with
      | none => 0
      | some value => blockLength 2 value.encodedLength

/-- The length of some entries as fields of a number. -/
def entriesLength (field : Nat) : List Entry → Nat
  | [] => 0
  | entry :: rest => blockLength field entry.encodedLength + entriesLength field rest

/-- The length of the fields of a root. -/
def Root.encodedLength (root : Root) : Nat :=
  entriesLength 1 root.calls + entriesLength 2 root.streams

/-- A field laid out as a number. -/
def numberField (field value : Nat) : Bytes :=
  Key.encode ⟨field, .varint⟩ ++ Varint.encode value

/-- A field laid out as a length and bytes, which the caller says are so many. -/
def lengthField (field length : Nat) (payload : Bytes) : Bytes :=
  Key.encode ⟨field, .lengthDelimited⟩ ++ Varint.encode length ++ payload

/-- A field laid out as a length and that many bytes. -/
def blockField (field : Nat) (payload : Bytes) : Bytes :=
  lengthField field payload.length payload

/-- A tag is left out when it is zero. -/
def encodeTag (tag : Int32) : Bytes :=
  if tag = 0 then [] else numberField 1 (tagNumber tag)

/-- A slot is written under the number of its kind. -/
def Slot.encode : Slot → Bytes
  | .flag value => numberField 2 value.toNat
  | .unsigned value => numberField 3 value.toNat
  | .raw value => blockField 4 value

/-- A slot is left out when none is set. -/
def encodeSlot : Option Slot → Bytes
  | none => []
  | some slot => slot.encode

mutual

/-- The fields of a value. -/
def Value.encode : Value → Bytes
  | ⟨tag, slot, children⟩ => encodeTag tag ++ encodeSlot slot ++ encodeChildren children

/-- Each child is a field of its own. -/
def encodeChildren : List Value → Bytes
  | [] => []
  | child :: rest => lengthField 5 child.encodedLength child.encode ++ encodeChildren rest

end

/-- A name is left out when it is empty. -/
def encodeName (name : String) : Bytes :=
  if name = "" then [] else blockField 1 (Utf8.encode name)

/-- The fields of an entry. -/
def Entry.encode (entry : Entry) : Bytes :=
  encodeName entry.name
    ++ match entry.value with
      | none => []
      | some value => lengthField 2 value.encodedLength value.encode

/-- Each entry is a field of its own, all under one number. -/
def encodeEntries (field : Nat) : List Entry → Bytes
  | [] => []
  | entry :: rest =>
    lengthField field entry.encodedLength entry.encode ++ encodeEntries field rest

/-- The fields of a root: every call, then every stream. -/
def Root.encode (root : Root) : Bytes :=
  encodeEntries 1 root.calls ++ encodeEntries 2 root.streams

end AstView.Wire

/-!
# Errors of the wire reader

An error has a fault and the fields in which the reader stood when it met it, the innermost
first. A fault met between fields, in a key or in a field to be skipped, adds no field of the
message that holds it.
-/
namespace AstView.Wire

/-- The six ways in which a field can be laid out. -/
inductive WireType where
  /-- A variable-length number. -/
  | varint
  /-- Eight bytes. -/
  | fixed64
  /-- A length and that many bytes. -/
  | lengthDelimited
  /-- The start of a group of fields. -/
  | startGroup
  /-- The end of a group of fields. -/
  | endGroup
  /-- Four bytes. -/
  | fixed32
  deriving Repr, DecidableEq, Inhabited

namespace WireType

/-- The low three bits of a key say how its field is laid out; two of the eight numbers are
not in use. -/
def ofCode? : Nat → Option WireType
  | 0 => some .varint
  | 1 => some .fixed64
  | 2 => some .lengthDelimited
  | 3 => some .startGroup
  | 4 => some .endGroup
  | 5 => some .fixed32
  | _ => none

/-- The number of a layout in a key. -/
def code : WireType → Nat
  | .varint => 0
  | .fixed64 => 1
  | .lengthDelimited => 2
  | .startGroup => 3
  | .endGroup => 4
  | .fixed32 => 5

/-- The name of a layout in a message to the user. -/
def name : WireType → String
  | .varint => "Varint"
  | .fixed64 => "SixtyFourBit"
  | .lengthDelimited => "LengthDelimited"
  | .startGroup => "StartGroup"
  | .endGroup => "EndGroup"
  | .fixed32 => "ThirtyTwoBit"

/-- A layout is found again under its number. -/
theorem ofCode?_code (wireType : WireType) : ofCode? wireType.code = some wireType := by
  cases wireType <;> rfl

end WireType

/-- What is wrong with a byte list. -/
inductive Fault where
  /-- A number is cut off, longer than ten bytes or not below 2^64. -/
  | varint
  /-- A key is not below 2^32. -/
  | key (value : Nat)
  /-- A key has a layout number that is not in use. -/
  | wireType (value : Nat)
  /-- A key has field number zero. -/
  | fieldNumber
  /-- A field of the schema is laid out in another way than the schema says. -/
  | mismatch (actual expected : WireType)
  /-- A length goes past the end of the bytes. -/
  | underflow
  /-- A message ends inside one of its own fields. -/
  | exceeded
  /-- A group ends that is not the innermost open one. -/
  | endGroup
  /-- A name is not UTF-8. -/
  | text
  deriving Repr, DecidableEq

/-- The text of a fault. -/
def Fault.message : Fault → String
  | .varint => "invalid varint"
  | .key value => s!"invalid key value: {value}"
  | .wireType value => s!"invalid wire type value: {value}"
  | .fieldNumber => "invalid tag value: 0"
  | .mismatch actual expected =>
    s!"invalid wire type: {actual.name} (expected {expected.name})"
  | .underflow => "buffer underflow"
  | .exceeded => "delimited length exceeded"
  | .endGroup => "unexpected end group tag"
  | .text => "invalid string value: data is not UTF-8 encoded"

/-- The fields of the schema. -/
inductive Field where
  /-- The calls of a root. -/
  | calls
  /-- The streams of a root. -/
  | streams
  /-- The name of a call. -/
  | callName
  /-- The result of a call. -/
  | callResult
  /-- The name of a stream. -/
  | streamName
  /-- The filter of a stream. -/
  | streamFilter
  /-- The type tag of a value. -/
  | tag
  /-- The payload slot of a value. -/
  | slot
  /-- The children of a value. -/
  | children
  deriving Repr, DecidableEq

/-- A field is named after its message and itself. -/
def Field.text : Field → String
  | .calls => "Root.calls"
  | .streams => "Root.streams"
  | .callName => "Call.name"
  | .callResult => "Call.result"
  | .streamName => "Stream.name"
  | .streamFilter => "Stream.filter"
  | .tag => "Value.t"
  | .slot => "Value.primitive"
  | .children => "Value.children"

/-- A fault and the fields around it, the innermost first. -/
structure DecodeError where
  /-- The fields around the fault, the innermost first. -/
  path : List Field
  /-- What is wrong. -/
  fault : Fault
  deriving Repr, DecidableEq

namespace DecodeError

/-- A fault met in the midst of no field. -/
def ofFault (fault : Fault) : DecodeError := ⟨[], fault⟩

/-- The same error seen from outside of a field. -/
def within (field : Field) (error : DecodeError) : DecodeError :=
  { error with path := error.path ++ [field] }

/-- The text of an error names the fields, each before a colon, and then the fault. -/
def message (error : DecodeError) : String :=
  "failed to decode Protobuf message: "
    ++ String.join (error.path.map fun field => field.text ++ ": ") ++ error.fault.message

end DecodeError

end AstView.Wire

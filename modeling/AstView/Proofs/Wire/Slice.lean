import AstView.Document
import Mathlib.Data.Nat.Digits.Defs

/-!
# The grammar of the wire

Another reading of the same bytes, by cutting them up. A message is a row of records, each a field
number and a payload, and nothing after the last of them. A payload that is laid out with a length
is cut out of the bytes of the message that holds it; if it is a message, it is read by itself,
without a look at the bytes around it. Records between the start and the end of a group are left
out, the start stands for the group.

Then the records are taken one by one. A record of the schema must have the payload that the
schema says, others are passed over. The last tag, name and slot win, a value that comes again is
read into the one there is, and calls, streams and children add up.

At last the root becomes a document, each list in its order. The number of a type says what is read
out of the slot, which is zero, false or no bytes if the slot holds something else; an entry without
a value has the empty one.
-/
namespace AstView.Wire.Slice

/-- What stands in a record after its number. -/
inductive Payload where
  /-- A number. -/
  | number (value : Nat)
  /-- Four or eight bytes. -/
  | fixed (bytes : Bytes)
  /-- Bytes behind their length. -/
  | block (bytes : Bytes)
  /-- The start of a group. -/
  | opening
  /-- The end of a group. -/
  | closing
  deriving Repr, DecidableEq

/-- A number, if the payload is one. -/
def Payload.number? : Payload → Option Nat
  | number value => some value
  | _ => none

/-- The bytes behind a length, if the payload has one. -/
def Payload.block? : Payload → Option Bytes
  | block bytes => some bytes
  | _ => none

/-- A field number and a payload. -/
structure Record where
  /-- The number of the field. -/
  field : Nat
  /-- What stands there. -/
  payload : Payload
  deriving Repr, DecidableEq

/-! ## Records -/

/-- A number in base 128, low digits first, is up to nine bytes with their top bit set and one
without. It must be below 2^64. -/
def number (bytes : Bytes) : Option (Nat × Bytes) :=
  let high := bytes.takeWhile (128 ≤ ·.toNat)
  match bytes.drop high.length with
  | [] => none
  | last :: rest =>
    let value := Nat.ofDigits 128 (high.map (·.toNat - 128) ++ [last.toNat])
    if high.length < 10 ∧ value < 2 ^ 64 then some (value, rest) else none

/-- So many bytes, if there are so many. -/
def cut (count : Nat) (bytes : Bytes) : Option (Bytes × Bytes) :=
  if count ≤ bytes.length then some (bytes.take count, bytes.drop count) else none

/-- A payload of a layout. -/
def payload (wireType : WireType) (bytes : Bytes) : Option (Payload × Bytes) :=
  match wireType with
  | .varint => do
    let (value, rest) ← number bytes
    return (.number value, rest)
  | .fixed64 => do
    let (word, rest) ← cut 8 bytes
    return (.fixed word, rest)
  | .lengthDelimited => do
    let (length, start) ← number bytes
    let (block, rest) ← cut length start
    return (.block block, rest)
  | .startGroup => return (.opening, bytes)
  | .endGroup => return (.closing, bytes)
  | .fixed32 => do
    let (word, rest) ← cut 4 bytes
    return (.fixed word, rest)

/-- A record: a field number from 1 to 2^29 - 1 and a layout in one number, and the payload. -/
def record (bytes : Bytes) : Option (Record × Bytes) := do
  let (key, start) ← number bytes
  let wireType ← WireType.ofCode? (key % 8)
  guard (0 < key / 8 ∧ key / 8 < 2 ^ 29)
  let (payload, rest) ← payload wireType start
  return (⟨key / 8, payload⟩, rest)

theorem number_length {value : Nat} {bytes rest : Bytes}
    (read : number bytes = some (value, rest)) : rest.length < bytes.length := by
  simp only [number] at read
  split at read
  · cases read
  · rename_i last tail left
    split at read
    · cases read
      have shorter := congrArg List.length left
      simp only [List.length_drop, List.length_cons] at shorter
      omega
    · cases read

theorem cut_length {count : Nat} {bytes block rest : Bytes}
    (read : cut count bytes = some (block, rest)) : block.length + rest.length = bytes.length := by
  unfold cut at read
  split at read
  · cases read
    rw [List.length_take, List.length_drop]
    omega
  · cases read

/-- How many bytes of a message can be in the payload of one of its records. -/
def Payload.weight : Payload → Nat
  | block bytes => bytes.length
  | _ => 0

theorem payload_length {wireType : WireType} {part : Payload} {bytes rest : Bytes}
    (read : payload wireType bytes = some (part, rest)) :
    part.weight + rest.length ≤ bytes.length := by
  cases wireType <;> simp only [payload, Option.bind_eq_bind, Option.bind_eq_some_iff,
    Option.pure_def, Option.some.injEq, Prod.mk.injEq, Prod.exists] at read
  case varint =>
    obtain ⟨value, left, found, rfl, rfl⟩ := read
    have := number_length found
    simp only [Payload.weight]
    omega
  case lengthDelimited =>
    obtain ⟨length, start, found, block, left, taken, rfl, rfl⟩ := read
    have := number_length found
    have := cut_length taken
    simp only [Payload.weight]
    omega
  case startGroup =>
    obtain ⟨rfl, rfl⟩ := read
    simp [Payload.weight]
  case endGroup =>
    obtain ⟨rfl, rfl⟩ := read
    simp [Payload.weight]
  all_goals
    obtain ⟨word, left, taken, rfl, rfl⟩ := read
    have := cut_length taken
    simp only [Payload.weight]
    omega

theorem record_length {one : Record} {bytes rest : Bytes}
    (read : record bytes = some (one, rest)) :
    one.payload.weight + rest.length < bytes.length := by
  simp only [record, Option.bind_eq_bind, Option.bind_eq_some_iff, Option.pure_def,
    Option.some.injEq, Prod.mk.injEq, Prod.exists] at read
  obtain ⟨key, start, found, wireType, _, _, _, part, left, inner, rfl, rfl⟩ := read
  have := number_length found
  have := payload_length inner
  simp only
  omega

/-- The records of a message. -/
def records (bytes : Bytes) : Option (List Record) :=
  if bytes = [] then some []
  else
    match _read : record bytes with
    | none => none
    | some (one, rest) =>
      match records rest with
      | none => none
      | some others => some (one :: others)
termination_by bytes.length
decreasing_by
  have := record_length _read
  omega

/-- Leaves out what stands in groups, of which some are open, the innermost first. Every group
ends with its own number, and no other group is left open in it. -/
def outermost : List Nat → List Record → Option (List Record)
  | [], [] => some []
  | _ :: _, [] => none
  | [], one :: rest =>
    match one.payload with
    | .opening => (outermost [one.field] rest).map (one :: ·)
    | .closing => none
    | _ => (outermost [] rest).map (one :: ·)
  | inner :: around, one :: rest =>
    match one.payload with
    | .opening => outermost (one.field :: inner :: around) rest
    | .closing => if one.field = inner then outermost around rest else none
    | _ => outermost (inner :: around) rest

/-- The records of a message that are in no group. -/
def fields (bytes : Bytes) : Option (List Record) := do outermost [] (← records bytes)

/-! ## Messages -/

/-- How many bytes the blocks of records and the records themselves take at least. -/
def weight : List Record → Nat
  | [] => 0
  | one :: rest => 1 + one.payload.weight + weight rest

theorem records_weight {bytes : Bytes} {found : List Record} (read : records bytes = some found) :
    weight found ≤ bytes.length := by
  fun_induction records bytes generalizing found with
  | case1 =>
    cases read
    exact Nat.zero_le _
  | case2 => cases read
  | case3 => cases read
  | case4 bytes _ one rest first others left ih =>
    cases read
    have := record_length first
    have := ih left
    simp only [weight]
    omega

theorem outermost_weight {around : List Nat} {all found : List Record}
    (read : outermost around all = some found) : weight found ≤ weight all := by
  fun_induction outermost around all generalizing found with
  | case1 =>
    cases read
    exact Nat.le_refl _
  | case2 => cases read
  | case3 one rest opening ih =>
    obtain ⟨others, inner, rfl⟩ := Option.map_eq_some_iff.1 read
    have := ih inner
    simp only [weight]
    omega
  | case4 => cases read
  | case5 one rest notOpening notClosing ih =>
    obtain ⟨others, inner, rfl⟩ := Option.map_eq_some_iff.1 read
    have := ih inner
    simp only [weight]
    omega
  | case6 inner around one rest opening ih =>
    have := ih read
    simp only [weight]
    omega
  | case7 around one rest closing ih =>
    have := ih read
    simp only [weight]
    omega
  | case8 => cases read
  | case9 inner around one rest notOpening notClosing ih =>
    have := ih read
    simp only [weight]
    omega

/-- The records of a block are smaller than the record that holds it. -/
theorem fields_weight {bytes : Bytes} {found : List Record} (read : fields bytes = some found) :
    weight found ≤ bytes.length := by
  simp only [fields, Option.bind_eq_bind, Option.bind_eq_some_iff] at read
  obtain ⟨all, split, kept⟩ := read
  exact Nat.le_trans (outermost_weight kept) (records_weight split)

theorem block?_weight {part : Payload} {block : Bytes} (found : part.block? = some block) :
    part.weight = block.length := by
  cases part <;> cases found
  rfl

/-- A record of a value that is no child. -/
def plainStep (value : Value) (one : Record) : Option Value :=
  match one.field with
  | 1 => one.payload.number?.map fun number => { value with tag := number.toUInt32.toInt32 }
  | 2 => one.payload.number?.map fun number => { value with slot := some (.flag (number != 0)) }
  | 3 =>
    one.payload.number?.map fun number => { value with slot := some (.unsigned number.toUInt64) }
  | 4 => one.payload.block?.map fun block => { value with slot := some (.raw block) }
  | _ => some value

/-- Takes the records of a value into what has been read of it before. A child is the records of
its own block, taken into the default. -/
def readValue (value : Value) : List Record → Option Value
  | [] => some value
  | one :: rest =>
    if one.field = 5 then
      match _block : one.payload.block? with
      | none => none
      | some block =>
        match _fields : fields block with
        | none => none
        | some inner =>
          match readValue {} inner with
          | none => none
          | some child => readValue { value with children := value.children ++ [child] } rest
    else
      match plainStep value one with
      | none => none
      | some next => readValue next rest
termination_by all => weight all
decreasing_by
  · have := fields_weight _fields
    have := block?_weight _block
    simp only [weight]
    omega
  · simp only [weight]
    omega
  · simp only [weight]
    omega

/-- A record of an entry. -/
def entryStep (entry : Entry) (one : Record) : Option Entry :=
  match one.field with
  | 1 => one.payload.block?.bind fun block => do
    let name ← String.fromUTF8? ⟨block.toArray⟩
    return { entry with name }
  | 2 => one.payload.block?.bind fun block => do
    let value ← readValue (entry.value.getD {}) (← fields block)
    return { entry with value := some value }
  | _ => some entry

/-- An entry out of a block of its own. -/
def readEntry (block : Bytes) : Option Entry := do (← fields block).foldlM entryStep {}

/-- A record of a root. -/
def rootStep (root : Root) (one : Record) : Option Root :=
  match one.field with
  | 1 => one.payload.block?.bind fun block => do
    return { root with calls := root.calls ++ [← readEntry block] }
  | 2 => one.payload.block?.bind fun block => do
    return { root with streams := root.streams ++ [← readEntry block] }
  | _ => some root

/-- A root out of all bytes. -/
def readRoot (bytes : Bytes) : Option Root := do (← fields bytes).foldlM rootStep {}

/-! ## Documents -/

/-- The number in a slot. -/
def unsigned? : Slot → Option UInt64
  | .unsigned value => some value
  | _ => none

/-- The bytes in a slot. -/
def raw? : Slot → Option Bytes
  | .raw value => some value
  | _ => none

/-- The kinds with a payload, each under the number of its type, and what they make of a slot. -/
def payloadKinds (slot : Option Slot) : List (Int32 × Kind) :=
  let unsigned := (slot.bind unsigned?).getD 0
  let raw := (slot.bind raw?).getD []
  [(1, .uint64 unsigned), (2, .bool (slot = some (.flag true))), (3, .bytes raw), (4, .error raw),
    (16, .arg unsigned), (17, .param unsigned)]

/-- The type with a number is the only one in the table that has it. -/
def tag (code : Int32) : Tag :=
  match NodeType.all.filter fun type => type.code = code with
  | [type] => .known type
  | _ => .unknown code

/-- The kind of a value. -/
def kind (code : Int32) (slot : Option Slot) : Kind :=
  ((payloadKinds slot).lookup code).getD (.node (tag code))

mutual

/-- A value as a tree. -/
def tree : Value → Tree
  | ⟨code, slot, children⟩ => ⟨kind code slot, trees children⟩

/-- Values as trees, in their order. -/
def trees : List Value → List Tree
  | [] => []
  | first :: rest => tree first :: trees rest

end

/-- An entry of a document. -/
def entry (found : Entry) : AstView.Entry where
  name := found.name
  tree :=
    match found.value with
    | some value => tree value
    | none => ⟨.node (.known .nil), []⟩

/-- A document out of a root. -/
def document (root : Root) : Document where
  calls := root.calls.map entry
  streams := root.streams.map entry

/-- A document out of all bytes. -/
def load (bytes : Bytes) : Option Document := do return document (← readRoot bytes)

end AstView.Wire.Slice

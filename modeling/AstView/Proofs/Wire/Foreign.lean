import AstView.Proofs.Wire.Acceptance
import AstView.Proofs.Wire.Concatenation

/-!
# Fields that the schema does not know

Messages of a later schema have fields with numbers that this one does not know. Wherever they stand
between the fields of a message, they are left out, and what is read is what would be read without
them. The bytes of such fields may look like fields of the schema, and a group holds any fields at
all, up to the key that closes it (`skipGroup_foreign`).

`Value.Padded`, `Entry.Padded` and `Root.Padded` say which bytes are those of a message with such
fields in it, at any depth. The length in front of a nested message counts them. A reader takes the
own fields one by one (`Reader.Through`), and what stands between them does not change what it has
read (`Reader.merge_foreign`).
-/
namespace AstView.Wire

/-! ## Rows of fields -/

/-- Bytes that spell a number, in as few bytes as can be or in more. -/
def Spells (bytes : Bytes) (value : Nat) : Prop := Slice.number bytes = some (value, [])

instance (bytes : Bytes) (value : Nat) : Decidable (Spells bytes value) :=
  inferInstanceAs (Decidable (_ = _))

/-- Bytes that spell a key, which has a field number from 1 to 2^29 - 1. -/
def Heads (bytes : Bytes) (key : Key) : Prop :=
  0 < key.field ∧ key.field < 2 ^ 29 ∧ Spells bytes key.code

instance (bytes : Bytes) (key : Key) : Decidable (Heads bytes key) :=
  inferInstanceAs (Decidable (_ ∧ _))

/-- Bytes that are a payload of a layout, which is no group. -/
inductive Fills : WireType → Bytes → Prop where
  /-- A number. -/
  | varint {bytes : Bytes} {value : Nat} (number : Spells bytes value) : Fills .varint bytes
  /-- Four bytes. -/
  | fixed32 {bytes : Bytes} (four : bytes.length = 4) : Fills .fixed32 bytes
  /-- Eight bytes. -/
  | fixed64 {bytes : Bytes} (eight : bytes.length = 8) : Fills .fixed64 bytes
  /-- A length and so many bytes. -/
  | block {length block : Bytes} (counted : Spells length block.length) :
    Fills .lengthDelimited (length ++ block)

/-- Bytes that are fields in a row, none of them with a known number. A group is a field that holds
any fields in a row, between its number with the layout that opens it and with the one that closes
it. -/
inductive Foreign : List Nat → Bytes → Prop where
  /-- No fields. -/
  | nil {known : List Nat} : Foreign known []
  /-- A field that is no group, in front of others. -/
  | plain {known : List Nat} {key : Key} {head payload rest : Bytes}
      (other : key.field ∉ known) (heads : Heads head key) (fills : Fills key.wireType payload)
      (behind : Foreign known rest) : Foreign known (head ++ (payload ++ rest))
  /-- A group in front of other fields. -/
  | group {known : List Nat} {field : Nat} {opening inside closing rest : Bytes}
      (other : field ∉ known) (opens : Heads opening ⟨field, .startGroup⟩)
      (fields : Foreign [] inside) (closes : Heads closing ⟨field, .endGroup⟩)
      (behind : Foreign known rest) :
      Foreign known (opening ++ (inside ++ (closing ++ rest)))

/-- Bytes that are the parts of a message in their order, with any fields that are not known before,
between and behind them. -/
inductive Woven (known : List Nat) : List Bytes → Bytes → Prop where
  /-- Other fields alone. -/
  | nil {noise : Bytes} (foreign : Foreign known noise) : Woven known [] noise
  /-- Other fields in front of a part and what comes after it. -/
  | cons {noise part rest : Bytes} {parts : List Bytes} (foreign : Foreign known noise)
      (behind : Woven known parts rest) : Woven known (part :: parts) (noise ++ (part ++ rest))

/-! ## Messages with other fields in them -/

mutual

/-- Bytes that are a value with other fields in it, at any depth. -/
def Value.Padded : Value → Bytes → Prop
  | ⟨tag, slot, children⟩, bytes => ∃ blocks, childrenPadded children blocks ∧
      Woven [1, 2, 3, 4, 5] ([encodeTag tag, encodeSlot slot] ++ blocks.map (blockField 5)) bytes

/-- Blocks that are some values with other fields in them, one block for each. -/
def childrenPadded : List Value → List Bytes → Prop
  | [], blocks => blocks = []
  | child :: later, blocks => ∃ block rest, blocks = block :: rest ∧
      child.Padded block ∧ childrenPadded later rest

end

/-- Bytes that are an entry with other fields in it, at any depth. -/
def Entry.Padded (entry : Entry) (bytes : Bytes) : Prop :=
  match entry.value with
  | none => Woven [1, 2] [encodeName entry.name] bytes
  | some value => ∃ block, value.Padded block ∧
      Woven [1, 2] [encodeName entry.name, blockField 2 block] bytes

/-- Bytes that are a root with other fields in it, at any depth. -/
def Root.Padded (root : Root) (bytes : Bytes) : Prop :=
  ∃ calls streams, List.Forall₂ Entry.Padded root.calls calls ∧
    List.Forall₂ Entry.Padded root.streams streams ∧
    Woven [1, 2] (calls.map (blockField 1) ++ streams.map (blockField 2)) bytes

/-! ## Fields are left out -/

/-- A number is read from its spelling. -/
theorem Spells.readVarint {bytes : Bytes} {value : Nat} (number : Spells bytes value)
    (rest : Bytes) : readVarint (bytes ++ rest) = .ok (value, rest) := by
  have alone := Slice.readVarint_eq_ok_iff.2 number
  obtain ⟨used, same, again⟩ := readVarint_prefix _ _ _ alone
  rw [List.append_nil] at same
  exact same ▸ again rest

/-- A key is read from its spelling. -/
theorem Heads.decode {bytes : Bytes} {key : Key} (heads : Heads bytes key) (rest : Bytes) :
    Key.decode (bytes ++ rest) = .ok (key, rest) := by
  obtain ⟨least, greatest, number⟩ := heads
  have found := Slice.readVarint_eq_ok_iff.1 (number.readVarint rest)
  have layout : WireType.ofCode? (key.code % 8) = some key.wireType := by
    rw [Key.code_mod, WireType.ofCode?_code]
  rw [← Key.code_div] at least greatest
  exact Slice.decode_eq_ok_iff.2 ⟨key.code, found, layout, key.code_div.symm, least, greatest⟩

/-- A payload that is no group is left out. -/
theorem Fills.skipPlain {wireType : WireType} {payload : Bytes} (fills : Fills wireType payload)
    (rest : Bytes) : skipPlain wireType (payload ++ rest) = .ok rest := by
  cases fills with
  | varint number => simp only [Wire.skipPlain, number.readVarint]
  | fixed32 four =>
    rw [Wire.skipPlain, dropBytes, if_neg (by rw [List.length_append]; omega),
      List.drop_left' four]
  | fixed64 eight =>
    rw [Wire.skipPlain, dropBytes, if_neg (by rw [List.length_append]; omega),
      List.drop_left' eight]
  | @block length block counted =>
    have long : ¬(block ++ rest).length < block.length := by
      rw [List.length_append]
      omega
    simp only [Wire.skipPlain, readLength, List.append_assoc, counted.readVarint, if_neg long,
      List.drop_left]

/-- A payload that is no group has another layout. -/
theorem Fills.not_group {wireType : WireType} {payload : Bytes} (fills : Fills wireType payload) :
    wireType ≠ .startGroup ∧ wireType ≠ .endGroup := by
  cases fills <;> decide

/-- A field that is no group is left out. -/
theorem Fills.skip {key : Key} {payload : Bytes} (fills : Fills key.wireType payload)
    (rest : Bytes) : key.skip (payload ++ rest) = .ok rest := by
  have plain := fills.skipPlain rest
  have layout := fills.not_group.1
  unfold Key.skip
  split
  · contradiction
  · exact plain

/-- In a group, any fields in a row are left out. -/
theorem skipGroup_foreign {known : List Nat} {noise : Bytes} (foreign : Foreign known noise)
    (field : Nat) (around : List Nat) (rest : Bytes) :
    skipGroup field around (noise ++ rest) = skipGroup field around rest := by
  induction foreign generalizing field around rest with
  | nil => rfl
  | plain _ heads fills _ ih =>
    rw [List.append_assoc, skipGroup_plain (heads.decode _) fills.not_group, List.append_assoc,
      fills.skipPlain]
    exact ih field around rest
  | group _ opens _ closes _ inner ih =>
    -- What is inside is left out for the group that opens here, up to the key that closes it.
    simp only [List.append_assoc]
    rw [skipGroup_opening (opens.decode _) rfl, inner, skipGroup_closing (closes.decode _) rfl,
      if_pos rfl]
    exact ih field around rest

namespace Reader

variable {α : Type} {reader : Reader α} {known : List Nat}

/-- A reader leaves out the fields whose numbers it does not know. -/
def Ignores (reader : Reader α) (known : List Nat) : Prop :=
  ∀ message key (bytes : Bytes), key.field ∉ known →
    reader.field message key bytes = (between (key.skip bytes)).map fun rest => (message, rest)

/-- A reader has read as much behind fields that it does not know as before them. -/
theorem merge_foreign (ignores : reader.Ignores known) {noise : Bytes}
    (foreign : Foreign known noise) (message : α) (rest : Bytes) :
    reader.merge 0 message (noise ++ rest) = reader.merge 0 message rest := by
  have leaves {key : Key} {bytes left : Bytes} (other : key.field ∉ known)
      (skipped : key.skip bytes = .ok left) :
      reader.field message key bytes = .ok (message, left) := by
    rw [ignores message key bytes other]
    exact skipped_eq_ok_iff.2 ⟨skipped, rfl⟩
  induction foreign with
  | nil => rfl
  | @plain _ key head payload behind other heads fills _ ih =>
    have skipped := fills.skip (behind ++ rest)
    simp only [List.append_assoc]
    rw [reader.merge_field (heads.decode _) (leaves other skipped) (Nat.zero_le _)]
    exact ih ignores leaves
  | @group _ field opening inside closing behind other opens fields closes _ _ ih =>
    have skipped : (⟨field, .startGroup⟩ : Key).skip (inside ++ (closing ++ (behind ++ rest))) =
        .ok (behind ++ rest) := by
      rw [Key.skip, skipGroup_foreign fields, skipGroup_closing (closes.decode _) rfl, if_pos rfl]
    simp only [List.append_assoc]
    rw [reader.merge_field (opens.decode _) (leaves other skipped) (Nat.zero_le _)]
    exact ih ignores leaves

/-- A reader takes parts one after the other, each of them to its end. -/
inductive Through (reader : Reader α) : α → List Bytes → α → Prop where
  /-- There are no parts. -/
  | nil {message : α} : Through reader message [] message
  /-- The first part is taken, and then the others. -/
  | cons {message next merged : α} {part : Bytes} {parts : List Bytes}
      (first : reader.merge 0 message part = .ok (next, []))
      (others : Through reader next parts merged) : Through reader message (part :: parts) merged

/-- Parts are taken one after the other in two lists as in one. -/
theorem Through.append {message next merged : α} {first second : List Bytes}
    (begins : reader.Through message first next) (goes : reader.Through next second merged) :
    reader.Through message (first ++ second) merged := by
  induction begins with
  | nil => exact goes
  | cons front _ ih => exact .cons front (ih goes)

/-- Parts that are taken one after the other are read with fields between them that are not
known. -/
theorem merge_woven (prefixes : ∀ bound, reader.PrefixBelow bound) (ignores : reader.Ignores known)
    {message merged : α} {parts : List Bytes} {bytes : Bytes} (woven : Woven known parts bytes)
    (through : reader.Through message parts merged) :
    reader.merge 0 message bytes = .ok (merged, []) := by
  induction woven generalizing message with
  | @nil noise foreign =>
    cases through
    have clean := merge_foreign ignores foreign merged []
    rw [List.append_nil] at clean
    rw [clean, reader.merge_nil]
  | cons foreign _ ih =>
    cases through with
    | cons first others =>
      rw [merge_foreign ignores foreign, merge_append (prefixes _) (Nat.le_refl _) first]
      exact ih others

end Reader

/-! ## Messages are read as without them -/

/-- A block is read as a nested message if it is read by itself. -/
theorem Reader.nested_blockField {α : Type} {reader : Reader α}
    (prefixes : ∀ bound, reader.PrefixBelow bound) (field : Field) (number : Nat)
    {message merged : α} {block : Bytes} (fits : block.length < 2 ^ 64)
    (whole : reader.merge 0 message block = .ok (merged, [])) :
    reader.nested field message ⟨number, .lengthDelimited⟩ (Varint.encode block.length ++ block) =
      .ok (merged, []) := by
  have cut : (⟨number, .lengthDelimited⟩ : Key).readBlock
      (Varint.encode block.length ++ (block ++ [])) = .ok (block, []) :=
    Key.readBlock_encode fits []
  rw [List.append_nil] at cut
  exact nested_of_block (prefixes _) field (Nat.le_refl _) cut whole

/-- A field that holds a block is read as one part. -/
theorem Reader.merge_blockField {α : Type} {reader : Reader α} {number : Nat}
    (known : number ≠ 0 ∧ number < 16) {message next : α} {block : Bytes}
    (read : reader.field message ⟨number, .lengthDelimited⟩ (Varint.encode block.length ++ block) =
      .ok (next, [])) :
    reader.merge 0 message (blockField number block) = .ok (next, []) := by
  have small : Key.code ⟨number, .lengthDelimited⟩ < Key.keyCount :=
    Nat.lt_trans (Key.code_lt known.2) (by decide)
  have key := Key.decode_encode known.1 small (Varint.encode block.length ++ block)
  rw [blockField, lengthField, List.append_assoc, reader.merge_field key read (Nat.zero_le _),
    reader.merge_nil]

/-- The parts of a message are no longer than it is with other fields in it. -/
theorem Woven.length_le {known : List Nat} {parts : List Bytes} {bytes : Bytes}
    (woven : Woven known parts bytes) : parts.flatten.length ≤ bytes.length := by
  induction woven with
  | nil => exact Nat.zero_le _
  | cons _ _ ih =>
    simp only [List.flatten_cons, List.length_append]
    omega

/-- A length that counts more bytes makes the field no shorter. -/
theorem blockLength_le {number length : Nat} {block : Bytes} (named : number < 16)
    (least : length ≤ block.length) (fits : block.length < 2 ^ 64) :
    blockLength number length ≤ (blockField number block).length := by
  have sizes := Varint.size_le_size least
  rw [blockField, length_lengthField named fits, blockLength, blockLength]
  omega

/-- A payload is shorter than its field, whatever length stands in front of it. -/
theorem length_le_lengthField (number length : Nat) (payload : Bytes) :
    payload.length ≤ (lengthField number length payload).length := by
  rw [lengthField, List.length_append]
  exact Nat.le_add_left _ _

/-- A block is shorter than its field. -/
theorem length_le_blockField (number : Nat) (block : Bytes) :
    block.length ≤ (blockField number block).length :=
  length_le_lengthField number block.length block

namespace Value

/-- A value leaves out the fields that are not its own. -/
theorem reader_ignores : reader.Ignores [1, 2, 3, 4, 5] := by
  intro value key bytes other
  simp only [List.mem_cons, List.not_mem_nil, or_false, not_or] at other
  obtain ⟨noTag, noFlag, noNumber, noRaw, noChild⟩ := other
  change Value.field value key bytes = _
  rw [Value.field, if_neg noChild, plainField]
  split
  · contradiction
  · contradiction
  · contradiction
  · contradiction
  · rfl

/-- A block is read as a child behind those that there are. -/
theorem merge_childField {block : Bytes} {child : Value} (fits : block.length < 2 ^ 64)
    (whole : reader.merge 0 {} block = .ok (child, [])) (value : Value) :
    reader.merge 0 value (blockField 5 block) =
      .ok ({ value with children := value.children ++ [child] }, []) := by
  have nested := Reader.nested_blockField reader_prefix .children 5 fits whole
  have step : reader.field value ⟨5, .lengthDelimited⟩ (Varint.encode block.length ++ block) =
      .ok ({ value with children := value.children ++ [child] }, []) := by
    rw [show reader.field = Value.field from rfl, Value.field, if_pos rfl, readChild_eq_nested,
      nested]
    rfl
  exact Reader.merge_blockField (by decide) step

/-- The field of a slot, in bytes that can be counted, has the length that is worked out for it. -/
theorem length_encodeSlot_of_length {slot : Option Slot}
    (fits : (encodeSlot slot).length < 2 ^ 64) : (encodeSlot slot).length = slotLength slot := by
  apply length_encodeSlot_of_raw
  rintro block rfl
  exact Nat.lt_of_le_of_lt (length_le_blockField 4 block) fits

mutual

/-- A value is no longer than it is with other fields in it. -/
theorem encodedLength_le_padded (value : Value) {bytes : Bytes} (padded : value.Padded bytes)
    (fits : bytes.length < 2 ^ 64) : value.encodedLength ≤ bytes.length := by
  match value with
  | ⟨tag, slot, children⟩ =>
    simp only [Padded] at padded
    obtain ⟨blocks, below, woven⟩ := padded
    have shorter := woven.length_le
    simp only [List.flatten_append, List.flatten_cons, List.flatten_nil, List.append_nil,
      List.length_append] at shorter
    have slotExact := length_encodeSlot_of_length (by omega : (encodeSlot slot).length < 2 ^ 64)
    have inner := childrenLength_le_padded children below (by omega)
    rw [encodedLength, ← length_encodeTag, ← slotExact]
    omega

/-- Children are no longer than they are with other fields in them. -/
theorem childrenLength_le_padded (children : List Value) {blocks : List Bytes}
    (padded : childrenPadded children blocks)
    (fits : (blocks.map (blockField 5)).flatten.length < 2 ^ 64) :
    childrenLength children ≤ (blocks.map (blockField 5)).flatten.length := by
  match children with
  | [] => exact Nat.zero_le _
  | child :: later =>
    simp only [childrenPadded] at padded
    obtain ⟨block, rest, rfl, own, others⟩ := padded
    simp only [List.map_cons, List.flatten_cons, List.length_append] at fits ⊢
    have short := length_le_blockField 5 block
    have first := encodedLength_le_padded child own (by omega)
    have field := blockLength_le (by decide : 5 < 16) first (by omega)
    have behind := childrenLength_le_padded later others (by omega)
    rw [childrenLength]
    omega

end

mutual

/-- A value is read from its bytes with other fields in them. -/
theorem merge_padded (value : Value) {bytes : Bytes} (padded : value.Padded bytes)
    (fits : bytes.length < 2 ^ 64) : reader.merge 0 {} bytes = .ok (value, []) := by
  match value with
  | ⟨tag, slot, children⟩ =>
    simp only [Padded] at padded
    obtain ⟨blocks, below, woven⟩ := padded
    have shorter := woven.length_le
    simp only [List.flatten_append, List.flatten_cons, List.flatten_nil, List.append_nil,
      List.length_append] at shorter
    have slotExact := length_encodeSlot_of_length (by omega : (encodeSlot slot).length < 2 ^ 64)
    -- A tag or a slot that is left out is a part without bytes.
    have tagRead := merge_encodeTag (Nat.zero_le ([] : Bytes).length) tag
    have slotRead := merge_encodeSlot (Nat.zero_le ([] : Bytes).length) tag slot (by omega)
    rw [List.append_nil, reader.merge_nil] at tagRead slotRead
    have own := (Reader.Through.nil.cons slotRead).cons tagRead
    have inner := through_children children below (by omega) ⟨tag, slot, []⟩
    exact Reader.merge_woven reader_prefix reader_ignores woven (own.append inner)

/-- Children are read one after the other, behind those that there are. -/
theorem through_children (children : List Value) {blocks : List Bytes}
    (padded : childrenPadded children blocks)
    (fits : (blocks.map (blockField 5)).flatten.length < 2 ^ 64) (value : Value) :
    reader.Through value (blocks.map (blockField 5))
      { value with children := value.children ++ children } := by
  match children with
  | [] =>
    simp only [childrenPadded] at padded
    cases value
    rw [padded, List.append_nil]
    exact .nil
  | child :: later =>
    simp only [childrenPadded] at padded
    obtain ⟨block, rest, rfl, own, others⟩ := padded
    simp only [List.map_cons, List.flatten_cons, List.length_append] at fits ⊢
    have short := length_le_blockField 5 block
    have whole := merge_padded child own (by omega)
    have first := merge_childField (by omega) whole value
    have behind := through_children later others (by omega)
      { value with children := value.children ++ [child] }
    rw [List.append_assoc] at behind
    exact .cons first behind

end

end Value

namespace Entry

/-- An entry leaves out the fields that are not its own. -/
theorem reader_ignores (role : Role) : (reader role).Ignores [1, 2] := by
  intro entry key bytes other
  simp only [List.mem_cons, List.not_mem_nil, or_false, not_or] at other
  obtain ⟨noName, noValue⟩ := other
  change Entry.field role entry key bytes = _
  rw [Entry.field]
  split
  · contradiction
  · contradiction
  · rfl

/-- A block is read into the value that there is, or else as a value of its own. -/
theorem merge_valueField (role : Role) {block : Bytes} {entry : Entry} {merged : Value}
    (fits : block.length < 2 ^ 64)
    (whole : Value.reader.merge 0 (entry.value.getD {}) block = .ok (merged, [])) :
    (reader role).merge 0 entry (blockField 2 block) =
      .ok ({ entry with value := some merged }, []) := by
  have nested := Reader.nested_blockField Value.reader_prefix (valueField role) 2 fits whole
  have step : (reader role).field entry ⟨2, .lengthDelimited⟩
      (Varint.encode block.length ++ block) = .ok ({ entry with value := some merged }, []) := by
    simp only [reader, Entry.field, nested, into, Except.map]
  exact Reader.merge_blockField (by decide) step

/-- A name whose field can be counted can be counted itself. -/
theorem name_fits_of_length {name : String} (fits : (encodeName name).length < 2 ^ 64) :
    name.utf8ByteSize < 2 ^ 64 := by
  by_cases empty : name = ""
  · rw [empty]
    decide
  · rw [encodeName, if_neg empty] at fits
    rw [← Utf8.length_encode]
    exact Nat.lt_of_le_of_lt (length_le_blockField 1 _) fits

/-- An entry is no longer than it is with other fields in it. -/
theorem encodedLength_le_padded {entry : Entry} {bytes : Bytes} (padded : entry.Padded bytes)
    (fits : bytes.length < 2 ^ 64) : entry.encodedLength ≤ bytes.length := by
  obtain ⟨name, value⟩ := entry
  cases value with
  | none =>
    have shorter := Woven.length_le padded
    simp only [List.flatten_cons, List.flatten_nil, List.append_nil] at shorter
    have nameFits := name_fits_of_length (by omega : (encodeName name).length < 2 ^ 64)
    have nameExact := length_encodeName nameFits
    simp only [encodedLength, ← nameExact]
    omega
  | some value =>
    obtain ⟨block, own, woven⟩ := padded
    have shorter := woven.length_le
    simp only [List.flatten_cons, List.flatten_nil, List.append_nil, List.length_append] at shorter
    have nameFits := name_fits_of_length (by omega : (encodeName name).length < 2 ^ 64)
    have nameExact := length_encodeName nameFits
    have short := length_le_blockField 2 block
    have inner := value.encodedLength_le_padded own (by omega)
    have field := blockLength_le (by decide : 2 < 16) inner (by omega)
    simp only [encodedLength, ← nameExact]
    omega

/-- An entry is read from its bytes with other fields in them. -/
theorem merge_padded (role : Role) {entry : Entry} {bytes : Bytes} (padded : entry.Padded bytes)
    (fits : bytes.length < 2 ^ 64) : (reader role).merge 0 {} bytes = .ok (entry, []) := by
  have named (name : String) (short : (encodeName name).length < 2 ^ 64) :
      (reader role).merge 0 {} (encodeName name) = .ok ({ name }, []) := by
    have read := merge_encodeName role (Nat.zero_le ([] : Bytes).length) (name_fits_of_length short)
    rwa [List.append_nil, (reader role).merge_nil] at read
  obtain ⟨name, value⟩ := entry
  cases value with
  | none =>
    have shorter := Woven.length_le padded
    simp only [List.flatten_cons, List.flatten_nil, List.append_nil] at shorter
    have own := Reader.Through.nil.cons (named name (by omega))
    exact Reader.merge_woven (Entry.reader_prefix role) (reader_ignores role) padded own
  | some value =>
    obtain ⟨block, inner, woven⟩ := padded
    have shorter := woven.length_le
    simp only [List.flatten_cons, List.flatten_nil, List.append_nil, List.length_append] at shorter
    have short := length_le_blockField 2 block
    have whole := value.merge_padded inner (by omega)
    have last : (reader role).merge 0 { name } (blockField 2 block) =
        .ok ({ name, value := some value }, []) := merge_valueField role (by omega) whole
    have own := (Reader.Through.nil.cons last).cons (named name (by omega))
    exact Reader.merge_woven (Entry.reader_prefix role) (reader_ignores role) woven own

end Entry

namespace Root

/-- A root leaves out the fields that are not its own. -/
theorem reader_ignores : reader.Ignores [1, 2] := by
  intro root key bytes other
  simp only [List.mem_cons, List.not_mem_nil, or_false, not_or] at other
  obtain ⟨noCall, noStream⟩ := other
  change Root.field root key bytes = _
  rw [Root.field]
  split
  · contradiction
  · contradiction
  · rfl

/-- Entries are no longer than they are with other fields in them. -/
theorem entriesLength_le_padded {number : Nat} (named : number < 16) {entries : List Entry}
    {blocks : List Bytes} (padded : List.Forall₂ Entry.Padded entries blocks)
    (fits : (blocks.map (blockField number)).flatten.length < 2 ^ 64) :
    entriesLength number entries ≤ (blocks.map (blockField number)).flatten.length := by
  induction padded with
  | nil => exact Nat.zero_le _
  | @cons entry block later rest own _ ih =>
    simp only [List.map_cons, List.flatten_cons, List.length_append] at fits ⊢
    have short := length_le_blockField number block
    have first := Entry.encodedLength_le_padded own (by omega)
    have field := blockLength_le named first (by omega)
    have behind := ih (by omega)
    rw [entriesLength]
    omega

/-- A block is read as an entry behind those that there are. -/
theorem merge_entryBlock (role : Role) {block : Bytes} {entry : Entry}
    (fits : block.length < 2 ^ 64)
    (whole : (Entry.reader role).merge 0 {} block = .ok (entry, [])) (root : Root) :
    reader.merge 0 root (blockField (entriesNumber role) block) =
      .ok (root.add role [entry], []) := by
  have nested := Reader.nested_blockField (Entry.reader_prefix role) (entriesField role)
    (entriesNumber role) fits whole
  have step : reader.field root ⟨entriesNumber role, .lengthDelimited⟩
      (Varint.encode block.length ++ block) = .ok (root.add role [entry], []) := by
    rw [field_entries, nested]
    rfl
  exact Reader.merge_blockField (entriesNumber_known role) step

/-- Entries are read one after the other, behind those that there are. -/
theorem through_entries (role : Role) {entries : List Entry} {blocks : List Bytes}
    (padded : List.Forall₂ Entry.Padded entries blocks)
    (fits : (blocks.map (blockField (entriesNumber role))).flatten.length < 2 ^ 64) (root : Root) :
    reader.Through root (blocks.map (blockField (entriesNumber role))) (root.add role entries) := by
  induction padded generalizing root with
  | nil =>
    rw [add_nil]
    exact .nil
  | @cons entry block later rest own _ ih =>
    simp only [List.map_cons, List.flatten_cons, List.length_append] at fits ⊢
    have short := length_le_blockField (entriesNumber role) block
    have whole := Entry.merge_padded role own (by omega)
    have first := merge_entryBlock role (by omega) whole root
    have behind := ih (by omega) (root.add role [entry])
    rw [add_add] at behind
    exact .cons first behind

/-- A root is no longer than it is with other fields in it. -/
theorem encodedLength_le_padded {root : Root} {bytes : Bytes} (padded : root.Padded bytes)
    (fits : bytes.length < 2 ^ 64) : root.encodedLength ≤ bytes.length := by
  obtain ⟨calls, streams, callsPadded, streamsPadded, woven⟩ := padded
  have shorter := woven.length_le
  simp only [List.flatten_append, List.length_append] at shorter
  have first := entriesLength_le_padded (by decide : 1 < 16) callsPadded (by omega)
  have second := entriesLength_le_padded (by decide : 2 < 16) streamsPadded (by omega)
  rw [encodedLength]
  omega

/-- A root is read from its bytes with other fields in them. -/
theorem decode_padded {root : Root} {bytes : Bytes} (padded : root.Padded bytes)
    (fits : bytes.length < 2 ^ 64) : decode bytes = .ok root := by
  obtain ⟨calls, streams, callsPadded, streamsPadded, woven⟩ := padded
  have shorter := woven.length_le
  simp only [List.flatten_append, List.length_append] at shorter
  have first := through_entries .call callsPadded (by simp only [entriesNumber]; omega) {}
  have second := through_entries .stream streamsPadded (by simp only [entriesNumber]; omega)
    { calls := root.calls }
  exact decode_eq_ok_iff.2 (Reader.merge_woven reader_prefix reader_ignores woven
    (first.append second))

end Root

/-! ## Messages without other fields -/

/-- The parts of a message in a row are the message with no other fields in it. -/
theorem Woven.flatten (known : List Nat) (parts : List Bytes) :
    Woven known parts parts.flatten := by
  induction parts with
  | nil => exact .nil .nil
  | cons part rest ih => exact .cons .nil ih

/-- A field is written behind its length if that is the number of its bytes. -/
theorem lengthField_eq (number : Nat) {length : Nat} {payload : Bytes}
    (exact : payload.length = length) :
    lengthField number length payload = blockField number payload := by
  rw [blockField, exact]

mutual

/-- The bytes of a value are those of the value with no other fields in it. -/
theorem Value.padded_encode (value : Value) (fits : value.encodedLength < 2 ^ 64) :
    value.Padded value.encode := by
  match value with
  | ⟨tag, slot, children⟩ =>
    rw [Value.encodedLength] at fits
    obtain ⟨blocks, own, same⟩ := childrenPadded_encode children (by omega)
    have row := Woven.flatten [1, 2, 3, 4, 5]
      ([encodeTag tag, encodeSlot slot] ++ blocks.map (blockField 5))
    rw [List.flatten_append, same, List.flatten_cons, List.flatten_cons, List.flatten_nil,
      List.append_nil] at row
    simp only [Value.Padded]
    exact ⟨blocks, own, row⟩

/-- The bytes of children are those of the children with no other fields in them. -/
theorem childrenPadded_encode (children : List Value) (fits : childrenLength children < 2 ^ 64) :
    ∃ blocks, childrenPadded children blocks ∧
      (blocks.map (blockField 5)).flatten = encodeChildren children := by
  match children with
  | [] =>
    simp only [childrenPadded]
    exact ⟨[], rfl, rfl⟩
  | child :: later =>
    rw [childrenLength, blockLength] at fits
    obtain ⟨blocks, others, same⟩ := childrenPadded_encode later (by omega)
    have own := child.padded_encode (by omega)
    have field := lengthField_eq 5 (child.length_encode (by omega))
    simp only [childrenPadded]
    refine ⟨child.encode :: blocks, ⟨_, _, rfl, own, others⟩, ?_⟩
    rw [List.map_cons, List.flatten_cons, same, encodeChildren, field]

end

/-- The bytes of an entry are those of the entry with no other fields in it. -/
theorem Entry.padded_encode (entry : Entry) (fits : entry.encodedLength < 2 ^ 64) :
    entry.Padded entry.encode := by
  obtain ⟨name, value⟩ := entry
  cases value with
  | none => exact Woven.flatten [1, 2] [encodeName name]
  | some value =>
    simp only [encodedLength, blockLength] at fits
    have field := lengthField_eq 2 (value.length_encode (by omega))
    have row := Woven.flatten [1, 2] [encodeName name, blockField 2 value.encode]
    rw [List.flatten_cons, List.flatten_cons, List.flatten_nil, List.append_nil, ← field] at row
    exact ⟨value.encode, value.padded_encode (by omega), field ▸ row⟩

/-- The bytes of entries are those of the entries with no other fields in them. -/
theorem entriesPadded_encode (number : Nat) (entries : List Entry)
    (fits : entriesLength number entries < 2 ^ 64) :
    ∃ blocks, List.Forall₂ Entry.Padded entries blocks ∧
      (blocks.map (blockField number)).flatten = encodeEntries number entries := by
  induction entries with
  | nil => exact ⟨[], .nil, rfl⟩
  | cons entry later ih =>
    rw [entriesLength, blockLength] at fits
    obtain ⟨blocks, others, same⟩ := ih (by omega)
    have own := entry.padded_encode (by omega)
    have field := lengthField_eq number (entry.length_encode (by omega))
    refine ⟨entry.encode :: blocks, .cons own others, ?_⟩
    rw [List.map_cons, List.flatten_cons, same, encodeEntries, field]

/-- The bytes of a root are those of the root with no other fields in it. -/
theorem Root.padded_encode (root : Root) (fits : root.encodedLength < 2 ^ 64) :
    root.Padded root.encode := by
  rw [encodedLength] at fits
  obtain ⟨calls, callsPadded, callsSame⟩ := entriesPadded_encode 1 root.calls (by omega)
  obtain ⟨streams, streamsPadded, streamsSame⟩ := entriesPadded_encode 2 root.streams (by omega)
  refine ⟨calls, streams, callsPadded, streamsPadded, ?_⟩
  have row := Woven.flatten [1, 2] (calls.map (blockField 1) ++ streams.map (blockField 2))
  rwa [List.flatten_append, callsSame, streamsSame] at row

end AstView.Wire

namespace AstView.Document

open Wire

/-- Bytes of a root with any fields in them that are not known, at any depth, are loaded as the
document of the root, and so are its bytes without those fields. -/
theorem load_foreign (root : Root) (bytes : Bytes) (padded : root.Padded bytes)
    (fits : bytes.length < 2 ^ 64) :
    ∃ document, load bytes = .ok document ∧ load root.encode = .ok document := by
  have read := load_eq_ok_iff.2 ⟨root, Root.decode_padded padded fits, rfl⟩
  have shorter := root.encodedLength_le_padded padded fits
  exact ⟨ofWire root, read, load_root (Nat.lt_of_le_of_lt shorter fits)⟩

/-- A call with a name and a result that has an empty child. -/
def plainCall : Root where
  calls := [{ name := "a", value := some { tag := 13, children := [{}] } }]

/-- A field of eight bytes, of no message here. -/
def laterWord : Bytes := [0x31, 1, 2, 3, 4, 5, 6, 7, 8]

/-- A field whose block looks like the start of a name. -/
def laterBlock : Bytes := [0x3a, 0x01, 0x0a]

/-- A field that is zero in two bytes. -/
def laterNumber : Bytes := [0x40, 0x80, 0x00]

/-- A group with what looks like a tag and a group of its own. -/
def laterGroup : Bytes := [0x33, 0x08, 0x05, 0x0b, 0x0c, 0x34]

/-- The bytes of that call with such fields in every message. -/
def laterCall : Bytes :=
  let result := encodeTag 13 ++ (blockField 5 laterGroup ++ laterNumber)
  let call := encodeName "a" ++ (laterBlock ++ (blockField 2 result ++ laterWord))
  laterWord ++ (blockField 1 call ++ laterBlock)

theorem load_foreign_laterCall :
    plainCall.Padded laterCall ∧ laterCall.length < 2 ^ 64 ∧
      ∃ document, load laterCall = .ok document ∧ load plainCall.encode = .ok document := by
  have empty {known : List Nat} : Foreign known [] := .nil
  have word : Foreign [1, 2] laterWord :=
    @Foreign.plain _ ⟨6, .fixed64⟩ [0x31] [1, 2, 3, 4, 5, 6, 7, 8] [] (by decide) (by decide)
      (.fixed64 rfl) empty
  have block : Foreign [1, 2] laterBlock :=
    @Foreign.plain _ ⟨7, .lengthDelimited⟩ [0x3a] [0x01, 0x0a] [] (by decide) (by decide)
      (@Fills.block [0x01] [0x0a] (by decide)) empty
  have number : Foreign [1, 2, 3, 4, 5] laterNumber :=
    @Foreign.plain _ ⟨8, .varint⟩ [0x40] [0x80, 0x00] [] (by decide) (by decide)
      (@Fills.varint _ 0 (by decide)) empty
  have group : Foreign [1, 2, 3, 4, 5] laterGroup := by
    have inner : Foreign [] [0x0b, 0x0c] :=
      @Foreign.group _ 1 [0x0b] [] [0x0c] [] (by decide) (by decide) empty (by decide) empty
    have tag : Foreign [] [0x08, 0x05, 0x0b, 0x0c] :=
      @Foreign.plain _ ⟨1, .varint⟩ [0x08] [0x05] _ (by decide) (by decide)
        (@Fills.varint _ 5 (by decide)) inner
    exact @Foreign.group _ 6 [0x33] _ [0x34] [] (by decide) (by decide) tag (by decide) empty
  have child : ({} : Value).Padded laterGroup :=
    ⟨[], rfl, .cons empty (.cons empty (.nil group))⟩
  have result : (⟨13, none, [{}]⟩ : Value).Padded _ :=
    ⟨[_], ⟨_, [], rfl, child, rfl⟩, .cons empty (.cons empty (.cons empty (.nil number)))⟩
  have call : (⟨"a", some ⟨13, none, [{}]⟩⟩ : Wire.Entry).Padded _ :=
    ⟨_, result, .cons empty (.cons block (.nil word))⟩
  have padded : plainCall.Padded laterCall :=
    ⟨[_], [], .cons call .nil, .nil, .cons word (.nil block)⟩
  have fits : laterCall.length < 2 ^ 64 := by cbv
  exact ⟨padded, fits, load_foreign plainCall laterCall padded fits⟩

end AstView.Document

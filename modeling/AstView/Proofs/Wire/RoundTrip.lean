import AstView.Document
import AstView.Proofs.Wire.Prefix
import AstView.Proofs.Wire.Varint
import AstView.Wire.Encode

/-!
# Reading what was written

Every message is read back from its bytes. The proof goes field by field: a field in front of
other bytes leads a reader to the message with that field in it (`Reader.merge_field`), also when
the field was left out because it holds its default. A nested message is read back because the
length in front of it is the number of its bytes (`Value.length_encode`), at every depth. All
lengths have to fit in 64 bits, and they do if the length of the whole root does.
-/
namespace AstView.Wire

/-! ## Keys and payloads -/

/-- The layout of a field is in the low bits of its key. -/
theorem Key.code_mod (key : Key) : key.code % 8 = key.wireType.code := by
  unfold code
  cases key.wireType <;> simp only [WireType.code] <;> omega

/-- The number of a field is above its layout. -/
theorem Key.code_div (key : Key) : key.code / 8 = key.field := by
  unfold code
  cases key.wireType <;> simp only [WireType.code] <;> omega

/-- The key of a field below sixteen takes one byte. -/
theorem Key.code_lt {key : Key} (known : key.field < 16) : key.code < 128 := by
  have layout : key.wireType.code < 8 := by cases key.wireType <;> decide
  rw [code]
  omega

/-- A key is read back from its bytes. -/
theorem Key.decode_encode {key : Key} (named : key.field ≠ 0) (fits : key.code < keyCount)
    (rest : Bytes) : Key.decode (key.encode ++ rest) = .ok (key, rest) := by
  have small : key.code < 2 ^ 64 := Nat.lt_trans fits (by decide)
  simp only [Key.decode, Key.encode, readVarint, Varint.decode_encode small, code_mod, code_div,
    WireType.ofCode?_code, if_neg (Nat.not_le.2 fits), if_neg named]

/-- A length is read back from its bytes if so many bytes follow it. -/
theorem readLength_encode {payload : Bytes} (fits : payload.length < 2 ^ 64) (rest : Bytes) :
    readLength (Varint.encode payload.length ++ (payload ++ rest)) =
      .ok (payload.length, payload ++ rest) := by
  have long : ¬(payload ++ rest).length < payload.length := by
    rw [List.length_append]
    omega
  simp only [readLength, readVarint, Varint.decode_encode fits, if_neg long]

/-- A number is read back as a payload. -/
theorem Key.readNumber_encode {field value : Nat} (fits : value < 2 ^ 64) (rest : Bytes) :
    (⟨field, .varint⟩ : Key).readNumber (Varint.encode value ++ rest) = .ok (value, rest) := by
  simp only [readNumber, expect, if_true, readVarint, Varint.decode_encode fits]

/-- Bytes are read back as a payload. -/
theorem Key.readBlock_encode {field : Nat} {payload : Bytes} (fits : payload.length < 2 ^ 64)
    (rest : Bytes) :
    (⟨field, .lengthDelimited⟩ : Key).readBlock
      (Varint.encode payload.length ++ (payload ++ rest)) = .ok (payload, rest) := by
  simp only [readBlock, expect, if_true, readLength_encode fits, List.take_left, List.drop_left]

/-! ## Messages -/

/-- A nested message is read back if its fields are. -/
theorem Reader.nested_encode {α : Type} (reader : Reader α) (field : Field) (number : Nat)
    {message merged : α} {payload : Bytes} (fits : payload.length < 2 ^ 64) (rest : Bytes)
    (read : reader.merge rest.length message (payload ++ rest) = .ok (merged, rest)) :
    reader.nested field message ⟨number, .lengthDelimited⟩
      (Varint.encode payload.length ++ (payload ++ rest)) = .ok (merged, rest) := by
  have limit : (payload ++ rest).length - payload.length = rest.length := by
    rw [List.length_append]
    omega
  simp only [nested, Key.enter, Key.expect, if_true, readLength_encode fits, limit, read]

/-! ## Lengths -/

/-- The length of a field laid out as a length and bytes. -/
theorem length_lengthField {field : Nat} {payload : Bytes} (named : field < 16)
    (fits : payload.length < 2 ^ 64) :
    (lengthField field payload.length payload).length = blockLength field payload.length := by
  have small : Key.code ⟨field, .lengthDelimited⟩ < 2 ^ 64 :=
    Nat.lt_trans (Key.code_lt named) (by decide)
  simp only [lengthField, Key.encode, List.length_append, blockLength, Varint.size_eq small,
    Varint.size_eq fits]

/-- The length of a field laid out as a number. -/
theorem length_numberField {field value : Nat} (named : field < 16) (fits : value < 2 ^ 64) :
    (numberField field value).length = numberLength field value := by
  have small : Key.code ⟨field, .varint⟩ < 2 ^ 64 := Nat.lt_trans (Key.code_lt named) (by decide)
  simp only [numberField, Key.encode, List.length_append, numberLength, Varint.size_eq small,
    Varint.size_eq fits]

/-- A tag stands on the wire as a 64-bit number. -/
theorem tagNumber_lt (tag : Int32) : tagNumber tag < 2 ^ 64 := by
  unfold tagNumber wordCount
  omega

/-- The length of the field of a tag. -/
theorem length_encodeTag (tag : Int32) : (encodeTag tag).length = tagLength tag := by
  unfold encodeTag tagLength
  split
  · rfl
  · exact length_numberField (by decide) (tagNumber_lt tag)

/-- The length of the field of a slot whose bytes can be counted. -/
theorem length_encodeSlot_of_raw {slot : Option Slot}
    (fits : ∀ block, slot = some (.raw block) → block.length < 2 ^ 64) :
    (encodeSlot slot).length = slotLength slot := by
  match slot with
  | none => rfl
  | some (.flag value) =>
    exact length_numberField (by decide) (Nat.lt_trans (Bool.toNat_lt value) (by decide))
  | some (.unsigned value) => exact length_numberField (by decide) value.toNat_lt
  | some (.raw value) => exact length_lengthField (by decide) (fits value rfl)

/-- The length of the field of a slot. -/
theorem length_encodeSlot {slot : Option Slot} (fits : slotLength slot < 2 ^ 64) :
    (encodeSlot slot).length = slotLength slot := by
  apply length_encodeSlot_of_raw
  rintro block rfl
  simp only [slotLength, blockLength] at fits
  omega

mutual

/-- The length of a value is the number of its bytes. -/
theorem Value.length_encode (value : Value) (fits : value.encodedLength < 2 ^ 64) :
    value.encode.length = value.encodedLength := by
  match value with
  | ⟨tag, slot, children⟩ =>
    simp only [Value.encodedLength] at fits
    simp only [Value.encode, Value.encodedLength, List.length_append, length_encodeTag]
    rw [length_encodeSlot (by omega), length_encodeChildren children (by omega)]

/-- The length of some children is the number of their bytes. -/
theorem length_encodeChildren (children : List Value) (fits : childrenLength children < 2 ^ 64) :
    (encodeChildren children).length = childrenLength children := by
  match children with
  | [] => rfl
  | child :: rest =>
    simp only [childrenLength] at fits
    have short : child.encodedLength < 2 ^ 64 := by
      simp only [blockLength] at fits
      omega
    have exact := Value.length_encode child short
    simp only [encodeChildren, childrenLength, List.length_append]
    rw [length_encodeChildren rest (by omega), ← exact,
      length_lengthField (by decide) (by omega)]

end

/-- The length of the field of a name. -/
theorem length_encodeName {name : String} (fits : name.utf8ByteSize < 2 ^ 64) :
    (encodeName name).length = if name = "" then 0 else blockLength 1 name.utf8ByteSize := by
  by_cases empty : name = ""
  · simp only [encodeName, if_pos empty, List.length_nil]
  · simp only [encodeName, if_neg empty, ← Utf8.length_encode]
    apply length_lengthField (by decide)
    rw [Utf8.length_encode]
    exact fits

/-- The name of an entry is no longer than the entry. -/
theorem Entry.name_fits {entry : Entry} (fits : entry.encodedLength < 2 ^ 64) :
    entry.name.utf8ByteSize < 2 ^ 64 := by
  by_cases empty : entry.name = ""
  · rw [empty]
    decide
  · simp only [encodedLength, if_neg empty, blockLength] at fits
    omega

/-- The length of an entry is the number of its bytes. -/
theorem Entry.length_encode (entry : Entry) (fits : entry.encodedLength < 2 ^ 64) :
    entry.encode.length = entry.encodedLength := by
  have nameExact := length_encodeName (Entry.name_fits fits)
  obtain ⟨name, value⟩ := entry
  simp only [Entry.encode, Entry.encodedLength, List.length_append] at fits nameExact ⊢
  rw [nameExact]
  cases value with
  | none => rfl
  | some value =>
    simp only [blockLength] at fits
    have exact := Value.length_encode value (by omega)
    simp only [← exact]
    rw [length_lengthField (by decide) (by omega)]

/-- The length of some entries is the number of their bytes. -/
theorem length_encodeEntries {field : Nat} (named : field < 16) (entries : List Entry)
    (fits : entriesLength field entries < 2 ^ 64) :
    (encodeEntries field entries).length = entriesLength field entries := by
  induction entries with
  | nil => rfl
  | cons entry rest ih =>
    simp only [entriesLength] at fits
    have short : entry.encodedLength < 2 ^ 64 := by
      simp only [blockLength] at fits
      omega
    have exact := Entry.length_encode entry short
    simp only [encodeEntries, entriesLength, List.length_append]
    rw [ih (by omega), ← exact, length_lengthField named (by omega)]

/-! ## Values -/

/-- A field of bytes is a key, a length and the bytes. -/
theorem lengthField_append (field length : Nat) (payload rest : Bytes) :
    lengthField field length payload ++ rest =
      Key.encode ⟨field, .lengthDelimited⟩ ++ (Varint.encode length ++ (payload ++ rest)) := by
  simp only [lengthField, List.append_assoc]

/-- A field of a number is a key and the number. -/
theorem numberField_append (field value : Nat) (rest : Bytes) :
    numberField field value ++ rest =
      Key.encode ⟨field, .varint⟩ ++ (Varint.encode value ++ rest) := by
  simp only [numberField, List.append_assoc]

/-- A tag is the low half of its number on the wire. -/
theorem ofNat_tagNumber (tag : Int32) : Int32.ofNat (tagNumber tag) = tag := by
  apply Int32.toInt_inj.1
  have least := tag.le_toInt
  have greatest := tag.toInt_lt
  rw [Int32.toInt_ofNat', tagNumber, wordCount, Int32.size, Int.bmod]
  split <;> omega

namespace Value

section
variable {limit : Nat} {rest : Bytes} (inside : limit ≤ rest.length)
include inside

/-- A field that holds a number is read back into a value. -/
theorem merge_numberField {field number : Nat} {value next : Value}
    (known : field ≠ 0 ∧ field < 16)
    (read : value.field ⟨field, .varint⟩ (Varint.encode number ++ rest) = .ok (next, rest)) :
    reader.merge limit value (numberField field number ++ rest) =
      reader.merge limit next rest := by
  have small : Key.code ⟨field, .varint⟩ < Key.keyCount :=
    Nat.lt_trans (Key.code_lt known.2) (by decide)
  rw [numberField_append]
  exact reader.merge_field (Key.decode_encode known.1 small _) read inside

/-- A tag takes the place of the one that was read before, unless it was left out. -/
theorem merge_encodeTag_over (value : Value) (tag : Int32) :
    reader.merge limit value (encodeTag tag ++ rest) =
      reader.merge limit { value with tag := if tag = 0 then value.tag else tag } rest := by
  unfold encodeTag
  split
  · cases value
    rfl
  · apply merge_numberField inside (by decide)
    simp only [Value.field, plainField, Key.readNumber_encode (tagNumber_lt tag), inField, into,
      Except.map, ofNat_tagNumber, if_neg (by decide : ¬(1 : Nat) = 5)]

/-- The tag of a value is read back, also when it was left out. -/
theorem merge_encodeTag (tag : Int32) :
    reader.merge limit {} (encodeTag tag ++ rest) = reader.merge limit { tag } rest := by
  have same : (if tag = 0 then 0 else tag) = tag := by
    split
    · exact Eq.symm (by assumption)
    · rfl
  rw [merge_encodeTag_over inside, same]

/-- A slot takes the place of the one that was read before, unless none is set. -/
theorem merge_encodeSlot_over (value : Value) (slot : Option Slot)
    (fits : slotLength slot < 2 ^ 64) :
    reader.merge limit value (encodeSlot slot ++ rest) =
      reader.merge limit { value with slot := slot.or value.slot } rest := by
  match slot with
  | none =>
    cases value
    rfl
  | some (.flag value) =>
    have small : value.toNat < 2 ^ 64 := Nat.lt_trans (Bool.toNat_lt value) (by decide)
    have same : (value.toNat != 0) = value := by cases value <;> rfl
    apply merge_numberField inside (by decide)
    simp only [Value.field, plainField, Key.readNumber_encode small, inField, into, Except.map,
      same, Option.some_or, if_neg (by decide : ¬(2 : Nat) = 5)]
  | some (.unsigned value) =>
    apply merge_numberField inside (by decide)
    simp only [Value.field, plainField, Key.readNumber_encode value.toNat_lt, inField, into,
      Except.map, UInt64.ofNat_toNat, Option.some_or, if_neg (by decide : ¬(3 : Nat) = 5)]
  | some (.raw value) =>
    have small : value.length < 2 ^ 64 := by
      simp only [slotLength, blockLength] at fits
      omega
    simp only [encodeSlot, Slot.encode, blockField, lengthField_append]
    apply reader.merge_field (Key.decode_encode (by decide) (by decide) _) _ inside
    simp only [reader, Value.field, plainField, Key.readBlock_encode small, inField, into,
      Except.map, Option.some_or, if_neg (by decide : ¬(4 : Nat) = 5)]

/-- The slot of a value is read back, also when none is set. -/
theorem merge_encodeSlot (tag : Int32) (slot : Option Slot) (fits : slotLength slot < 2 ^ 64) :
    reader.merge limit { tag } (encodeSlot slot ++ rest) =
      reader.merge limit { tag, slot } rest := by
  rw [merge_encodeSlot_over inside _ _ fits, Option.or_none]

end

mutual

/-- A value is read back from its bytes. -/
theorem merge_encode (value : Value) (fits : value.encodedLength < 2 ^ 64) (rest : Bytes) :
    reader.merge rest.length {} (value.encode ++ rest) = .ok (value, rest) := by
  match value with
  | ⟨tag, slot, children⟩ =>
    simp only [encodedLength] at fits
    simp only [encode, List.append_assoc]
    have inside {bytes : Bytes} : rest.length ≤ (bytes ++ rest).length := by
      rw [List.length_append]
      omega
    rw [merge_encodeTag (by simp only [List.length_append]; omega) tag,
      merge_encodeSlot inside tag slot (by omega),
      merge_encodeChildren children (by omega) ⟨tag, slot, []⟩ rest]
    rfl

/-- Children are read back behind those that there are. -/
theorem merge_encodeChildren (children : List Value) (fits : childrenLength children < 2 ^ 64)
    (value : Value) (rest : Bytes) :
    reader.merge rest.length value (encodeChildren children ++ rest) =
      .ok ({ value with children := value.children ++ children }, rest) := by
  match children with
  | [] =>
    cases value
    rw [encodeChildren, List.nil_append, List.append_nil]
    exact reader.merge_done (Nat.le_refl _)
  | child :: later =>
    simp only [childrenLength, blockLength] at fits
    have exact := Value.length_encode child (by omega)
    have read := merge_encode child (by omega) (encodeChildren later ++ rest)
    have nested := reader.nested_encode .children 5 (by omega) _ read
    have step : reader.field value ⟨5, .lengthDelimited⟩
        (Varint.encode child.encode.length ++ (child.encode ++ (encodeChildren later ++ rest))) =
        .ok ({ value with children := value.children ++ [child] },
          encodeChildren later ++ rest) := by
      rw [show reader.field = Value.field from rfl, Value.field, if_pos rfl,
        readChild_eq_nested, nested]
      rfl
    rw [encodeChildren, List.append_assoc, lengthField_append, ← exact,
      reader.merge_field (Key.decode_encode (by decide) (by decide) _) step
        (by rw [List.length_append]; omega),
      merge_encodeChildren later (by omega) _ rest, List.append_assoc]
    rfl

end

end Value

/-! ## Entries and roots -/

namespace Entry

/-- A name takes the place of the one that was read before, unless it was left out. -/
theorem merge_encodeName_over (role : Role) {limit : Nat} {rest : Bytes}
    (inside : limit ≤ rest.length) (entry : Entry) {name : String}
    (fits : name.utf8ByteSize < 2 ^ 64) :
    (reader role).merge limit entry (encodeName name ++ rest) =
      (reader role).merge limit { entry with name := if name = "" then entry.name else name }
        rest := by
  by_cases empty : name = ""
  · rw [encodeName, if_pos empty, if_pos empty]
    rfl
  · have small : (Utf8.encode name).length < 2 ^ 64 := by
      rw [Utf8.length_encode]
      exact fits
    simp only [encodeName, if_neg empty, blockField, lengthField_append]
    apply (reader role).merge_field (Key.decode_encode (by decide) (by decide) _) _ inside
    simp only [reader, Entry.field, readName, Key.readBlock_encode small, Utf8.decode_encode,
      inField, into, Except.map]

/-- The name of an entry is read back, also when it was left out. -/
theorem merge_encodeName (role : Role) {limit : Nat} {rest : Bytes} (inside : limit ≤ rest.length)
    {name : String} (fits : name.utf8ByteSize < 2 ^ 64) :
    (reader role).merge limit {} (encodeName name ++ rest) =
      (reader role).merge limit { name } rest := by
  have same : (if name = "" then "" else name) = name := by
    split
    · exact Eq.symm (by assumption)
    · rfl
  rw [merge_encodeName_over role inside {} fits, same]

/-- An entry is read back from its bytes. -/
theorem merge_encode (role : Role) (entry : Entry) (fits : entry.encodedLength < 2 ^ 64)
    (rest : Bytes) :
    (reader role).merge rest.length {} (entry.encode ++ rest) = .ok (entry, rest) := by
  have named := Entry.name_fits fits
  obtain ⟨name, value⟩ := entry
  cases value with
  | none =>
    simp only [encode, List.append_nil]
    rw [merge_encodeName role (Nat.le_refl _) named]
    exact (reader role).merge_done (Nat.le_refl _)
  | some value =>
    simp only [encodedLength, blockLength] at fits
    have exact := Value.length_encode value (by omega)
    have read := Value.merge_encode value (by omega) rest
    have nested := Value.reader.nested_encode (valueField role) 2 (by omega) _ read
    have step : (reader role).field { name } ⟨2, .lengthDelimited⟩
        (Varint.encode value.encode.length ++ (value.encode ++ rest)) =
        .ok ({ name, value := some value }, rest) := by
      simp only [reader, Entry.field, Option.getD_none, nested, into, Except.map]
    simp only [encode, List.append_assoc, lengthField_append, ← exact]
    rw [merge_encodeName role (by simp only [List.length_append]; omega) named,
      (reader role).merge_field (Key.decode_encode (by decide) (by decide) _) step
        (Nat.le_refl _)]
    exact (reader role).merge_done (Nat.le_refl _)

/-- An entry is read back as the payload of a field. -/
theorem nested_encode (role : Role) (field : Field) (number : Nat) {entry : Entry}
    (fits : entry.encodedLength < 2 ^ 64) (rest : Bytes) :
    (reader role).nested field {} ⟨number, .lengthDelimited⟩
      (Varint.encode entry.encodedLength ++ (entry.encode ++ rest)) = .ok (entry, rest) := by
  have exact := Entry.length_encode entry fits
  rw [← exact]
  exact (reader role).nested_encode field number (by omega) _ (merge_encode role entry fits rest)

end Entry

namespace Root

/-- The field of the schema that holds the entries of a role. -/
def entriesField : Role → Field
  | .call => .calls
  | .stream => .streams

/-- The number of that field. -/
def entriesNumber : Role → Nat
  | .call => 1
  | .stream => 2

/-- That number takes one byte with its layout. -/
theorem entriesNumber_known (role : Role) : entriesNumber role ≠ 0 ∧ entriesNumber role < 16 := by
  cases role <;> decide

/-- Puts entries of a role behind those that there are. -/
def add (root : Root) (role : Role) (entries : List Entry) : Root :=
  match role with
  | .call => { root with calls := root.calls ++ entries }
  | .stream => { root with streams := root.streams ++ entries }

/-- Adding no entries changes nothing. -/
theorem add_nil (root : Root) (role : Role) : root.add role [] = root := by
  cases role <;> simp only [add, List.append_nil]

/-- Entries are added one after the other. -/
theorem add_add (root : Root) (role : Role) (first later : List Entry) :
    (root.add role first).add role later = root.add role (first ++ later) := by
  cases role <;> simp only [add, List.append_assoc]

/-- The entries of a role are nested messages under the number of that role. -/
theorem field_entries (root : Root) (role : Role) (bytes : Bytes) :
    reader.field root ⟨entriesNumber role, .lengthDelimited⟩ bytes =
      into (fun entry => root.add role [entry]) ((Entry.reader role).nested (entriesField role) {}
        ⟨entriesNumber role, .lengthDelimited⟩ bytes) := by
  cases role <;> rfl

/-- An entry in a field of its own. -/
def entryField (role : Role) (entry : Entry) : Bytes :=
  lengthField (entriesNumber role) entry.encodedLength entry.encode

/-- The field of an entry is read as that entry behind those that there are. -/
theorem merge_entryField (role : Role) {entry : Entry} (fits : entry.encodedLength < 2 ^ 64)
    (root : Root) (rest : Bytes) :
    reader.merge 0 root (entryField role entry ++ rest) =
      reader.merge 0 (root.add role [entry]) rest := by
  have step : reader.field root ⟨entriesNumber role, .lengthDelimited⟩
      (Varint.encode entry.encodedLength ++ (entry.encode ++ rest)) =
      .ok (root.add role [entry], rest) := by
    rw [field_entries, Entry.nested_encode role _ _ fits]
    rfl
  have known := entriesNumber_known role
  have small : Key.code ⟨entriesNumber role, .lengthDelimited⟩ < Key.keyCount :=
    Nat.lt_trans (Key.code_lt known.2) (by decide)
  rw [entryField, lengthField_append,
    reader.merge_field (Key.decode_encode known.1 small _) step (Nat.zero_le _)]

/-- The entries of a role are read back behind those that there are. -/
theorem merge_encodeEntries (role : Role) (entries : List Entry)
    (fits : entriesLength (entriesNumber role) entries < 2 ^ 64) (root : Root) (rest : Bytes) :
    reader.merge 0 root (encodeEntries (entriesNumber role) entries ++ rest) =
      reader.merge 0 (root.add role entries) rest := by
  induction entries generalizing root with
  | nil =>
    rw [add_nil]
    rfl
  | cons entry later ih =>
    simp only [entriesLength, blockLength] at fits
    have first := merge_entryField role (by omega : entry.encodedLength < 2 ^ 64) root
      (encodeEntries (entriesNumber role) later ++ rest)
    rw [encodeEntries, List.append_assoc]
    exact first.trans (by rw [ih (by omega), add_add]; rfl)

/-- A root is read back from its bytes. -/
theorem decode_encode (root : Root) (fits : root.encodedLength < 2 ^ 64) :
    decode root.encode = .ok root := by
  simp only [encodedLength] at fits
  have calls := merge_encodeEntries .call root.calls (by simp only [entriesNumber]; omega) {}
    (encodeEntries 2 root.streams)
  have streams := merge_encodeEntries .stream root.streams
    (by simp only [entriesNumber]; omega) { calls := root.calls } []
  rw [List.append_nil] at streams
  have done : reader.merge 0 root [] = .ok (root, []) := reader.merge_done (Nat.le_refl 0)
  rw [decode, encode]
  simp only [entriesNumber, add, List.nil_append] at calls streams
  rw [calls, streams, done]
  rfl

/-- The length of a root is the number of its bytes. -/
theorem length_encode (root : Root) (fits : root.encodedLength < 2 ^ 64) :
    root.encode.length = root.encodedLength := by
  simp only [encodedLength] at fits ⊢
  rw [encode, List.length_append, length_encodeEntries (by decide) _ (by omega),
    length_encodeEntries (by decide) _ (by omega)]

end Root

end AstView.Wire

namespace AstView.Document

open Wire

/-! ## Documents -/

/-- A document is loaded from the bytes of its root. -/
theorem load_eq_ok_iff {bytes : Bytes} {document : Document} :
    load bytes = .ok document ↔ ∃ root, Root.decode bytes = .ok root ∧ ofWire root = document := by
  unfold load
  cases Root.decode bytes <;> simp [Except.map]

/-- A root is loaded from its bytes as its document if their number fits in 64 bits. -/
theorem load_root {root : Root} (fits : root.encodedLength < 2 ^ 64) :
    load root.encode = .ok (ofWire root) :=
  load_eq_ok_iff.2 ⟨root, Root.decode_encode root fits, rfl⟩

end AstView.Document

namespace AstView.Wire

/-! ## Every length in front of a message -/

/-- A value is in another one if it is that value or in one of its children. -/
inductive Value.In : Value → Value → Prop where
  /-- Every value is in itself. -/
  | self (value : Value) : In value value
  /-- What is in a child of a value is in the value. -/
  | child {inner child outer : Value} : child ∈ outer.children → In inner child → In inner outer

/-- A value is in a root if it is in the value of one of its entries. -/
def Root.Holds (root : Root) (value : Value) : Prop :=
  ∃ entry ∈ root.calls ++ root.streams, ∃ top, entry.value = some top ∧ value.In top

/-- A child is no longer than all children together. -/
theorem encodedLength_le_children {child : Value} {children : List Value}
    (member : child ∈ children) : child.encodedLength ≤ childrenLength children := by
  induction member with
  | head rest =>
    simp only [childrenLength, blockLength]
    omega
  | tail other _ ih =>
    simp only [childrenLength]
    omega

/-- A value is no longer than one it is in. -/
theorem Value.In.encodedLength_le {inner outer : Value} (within : inner.In outer) :
    inner.encodedLength ≤ outer.encodedLength := by
  induction within with
  | self => exact Nat.le_refl _
  | @child child outer member _ ih =>
    obtain ⟨tag, slot, children⟩ := outer
    have short : child.encodedLength ≤ childrenLength children := encodedLength_le_children member
    simp only [Value.encodedLength]
    omega

/-- An entry is no longer than all entries together. -/
theorem encodedLength_le_entries {field : Nat} {entry : Entry} {entries : List Entry}
    (member : entry ∈ entries) : entry.encodedLength ≤ entriesLength field entries := by
  induction member with
  | head rest =>
    simp only [entriesLength, blockLength]
    omega
  | tail other _ ih =>
    simp only [entriesLength]
    omega

/-- An entry is no longer than its root. -/
theorem Root.entry_le {root : Root} {entry : Entry} (member : entry ∈ root.calls ++ root.streams) :
    entry.encodedLength ≤ root.encodedLength := by
  unfold encodedLength
  rcases List.mem_append.1 member with call | stream
  · have short : entry.encodedLength ≤ entriesLength 1 root.calls := encodedLength_le_entries call
    omega
  · have short : entry.encodedLength ≤ entriesLength 2 root.streams :=
      encodedLength_le_entries stream
    omega

/-- A value is no longer than the root that holds it. -/
theorem Root.Holds.encodedLength_le {root : Root} {value : Value} (held : root.Holds value) :
    value.encodedLength ≤ root.encodedLength := by
  obtain ⟨entry, member, top, same, within⟩ := held
  have inner := within.encodedLength_le
  have outer := Root.entry_le member
  simp only [Entry.encodedLength, same, blockLength] at outer
  omega

/-- A root whose length fits in 64 bits is read back from its bytes, so its bytes are loaded as its
document; and the length that is worked out for it, for each of its entries and for every value in
them is the number of bytes that are written. -/
theorem Root.round_trip_and_lengths (root : Root) (fits : root.encodedLength < 2 ^ 64) :
    decode root.encode = .ok root ∧ Document.load root.encode = .ok (.ofWire root) ∧
      root.encode.length = root.encodedLength ∧
      (∀ entry ∈ root.calls ++ root.streams, entry.encode.length = entry.encodedLength) ∧
      ∀ value, root.Holds value → value.encode.length = value.encodedLength := by
  have read := decode_encode root fits
  refine ⟨read, Document.load_root fits, length_encode root fits, ?_, ?_⟩
  · intro entry member
    exact Entry.length_encode entry (Nat.lt_of_le_of_lt (entry_le member) fits)
  · intro value held
    exact Value.length_encode value (Nat.lt_of_le_of_lt held.encodedLength_le fits)

/-- A root with a negative tag, a slot that holds its default, an empty child and an entry without
name and value. -/
def mixedRoot : Root where
  calls := [⟨"é", some ⟨-1, some (.flag false), [{}, ⟨16, some (.unsigned 300), []⟩]⟩⟩]
  streams := [{}]

theorem round_trip_mixedRoot :
    mixedRoot.encodedLength < 2 ^ 64 ∧ Root.decode mixedRoot.encode = .ok mixedRoot ∧
      mixedRoot.encode.length = mixedRoot.encodedLength := by
  have fits : mixedRoot.encodedLength < 2 ^ 64 := by decide
  have law := Root.round_trip_and_lengths mixedRoot fits
  exact ⟨fits, law.1, law.2.2.1⟩

end AstView.Wire

import AstView.Proofs.Utf8
import AstView.Proofs.Wire.Canonical
import AstView.Proofs.Wire.Prefix
import AstView.Proofs.Wire.Slice

/-!
# What the loader accepts

The loader reads a nested message from the bytes of the message around it and looks at its end
only afterwards. A record, a group or a text of the nested message can run past that end. Here the
loader is compared with the grammar of `Wire.Slice`, which gives every nested message its own bytes
and nothing else.

What the loader reads of a field is what the payload of a record says, for numbers, blocks and
what is left out, groups included. So a message is read exactly as its records are taken, as soon
as each of its fields is (`merge_eq_ok_iff`). That the bytes around a nested message make no
difference is `Reader.block_of_nested` and `Reader.nested_of_block`. Values, which hold values, go
by induction on the number of bytes (`value_agrees`).

So the loader and the grammar find the same root. That they make the same document of it
(`document_eq`) comes down to the kind of a value, which depends on whether its type is in the table
and whether it has a payload (`kind_eq`).
-/
namespace AstView.Wire.Slice

/-! ## Numbers and keys -/

/-- Behind so many bytes of the same number, a number is read as its digits say. -/
theorem decodeAt_eq {place : Nat} (early : place ≤ 9) (bytes : Bytes) :
    Varint.decodeAt place bytes =
      let high := bytes.takeWhile (128 ≤ ·.toNat)
      match bytes.drop high.length with
      | [] => none
      | last :: rest =>
        let value := Nat.ofDigits 128 (high.map (·.toNat - 128) ++ [last.toNat])
        if place + high.length < 10 ∧ value < 2 ^ (64 - 7 * place) then some (value, rest)
        else none := by
  induction bytes generalizing place with
  | nil => rfl
  | cons next tail ih =>
    have bound := next.toNat_lt
    rw [Varint.decodeAt]
    by_cases more : 128 ≤ next.toNat
    · simp only [List.takeWhile_cons, more, decide_true, if_true, List.length_cons,
        List.drop_succ_cons, List.map_cons, List.cons_append, Nat.ofDigits_cons]
      by_cases last : place = 9
      · subst last
        rw [if_pos rfl, if_neg (by omega)]
        split
        · rfl
        · rw [if_neg (by omega)]
      · have shift : 64 - 7 * place = 64 - 7 * (place + 1) + 7 := by omega
        rw [if_neg last, if_neg (by omega), ih (by omega)]
        simp only
        generalize tail.takeWhile (128 ≤ ·.toNat) = high
        cases tail.drop high.length with
        | nil => rfl
        | cons final rest =>
          simp only
          generalize Nat.ofDigits 128 _ = value
          rw [shift, Nat.pow_add]
          generalize 2 ^ (64 - 7 * (place + 1)) = room
          by_cases inside : place + 1 + high.length < 10 ∧ value < room
          · rw [if_pos inside, if_pos (by omega)]
          · rw [if_neg inside, if_neg (by omega)]
    · simp only [List.takeWhile_cons, more, decide_false, Bool.false_eq_true, if_false,
        List.length_nil, List.drop_zero, List.map_nil, List.nil_append, Nat.ofDigits_singleton]
      by_cases last : place = 9
      · subst last
        rw [if_pos rfl]
        simp only [Nat.add_zero, show 9 < 10 from by decide, true_and]
        rfl
      · have room : 2 ^ 8 ≤ 2 ^ (64 - 7 * place) := Nat.pow_le_pow_right (by decide) (by omega)
        rw [if_neg last, if_pos (by omega), if_pos (by omega)]

theorem number_eq (bytes : Bytes) : number bytes = Varint.decode bytes := by
  have digits := decodeAt_eq (Nat.zero_le 9) bytes
  simp only [Nat.zero_add] at digits
  exact digits.symm

/-- A number is read as a number of the grammar. -/
theorem readVarint_eq_ok_iff {value : Nat} {bytes rest : Bytes} :
    readVarint bytes = .ok (value, rest) ↔ number bytes = some (value, rest) := by
  rw [number_eq, readVarint]
  cases Varint.decode bytes <;> simp

theorem guard_eq_some_iff {condition : Prop} [Decidable condition] {found : Unit} :
    (guard condition : Option Unit) = some found ↔ condition := by
  by_cases holds : condition <;> simp [guard, holds]

/-- A key is a number of the grammar with a layout and a field number in range. -/
theorem decode_eq_ok_iff {key : Key} {bytes rest : Bytes} :
    Key.decode bytes = .ok (key, rest) ↔ ∃ value, number bytes = some (value, rest) ∧
      WireType.ofCode? (value % 8) = some key.wireType ∧ key.field = value / 8 ∧
      0 < value / 8 ∧ value / 8 < 2 ^ 29 := by
  constructor
  · intro read
    unfold Key.decode at read
    split at read
    · cases read
    · rename_i value left found
      split at read
      · cases read
      · rename_i small
        split at read
        · cases read
        · rename_i wireType layout
          split at read
          · cases read
          · cases read
            simp only [Key.keyCount] at small
            exact ⟨value, readVarint_eq_ok_iff.1 found, layout, rfl, by omega, by omega⟩
  · rintro ⟨value, found, layout, same, least, greatest⟩
    obtain ⟨field, wireType⟩ := key
    simp only at layout same
    have small : ¬Key.keyCount ≤ value := by
      simp only [Key.keyCount]
      omega
    simp only [Key.decode, readVarint_eq_ok_iff.2 found, if_neg small, layout,
      if_neg (by omega : ¬value / 8 = 0), same]

/-- A record is a key and a payload of its layout. -/
theorem record_eq_some_iff {one : Record} {bytes rest : Bytes} :
    record bytes = some (one, rest) ↔ ∃ key start, Key.decode bytes = .ok (key, start) ∧
      key.field = one.field ∧ payload key.wireType start = some (one.payload, rest) := by
  simp only [record, Option.bind_eq_bind, Option.bind_eq_some_iff, Option.pure_def,
    Option.some.injEq, Prod.mk.injEq, Prod.exists, guard_eq_some_iff, decode_eq_ok_iff]
  constructor
  · rintro ⟨value, start, found, wireType, layout, -, inside, part, left, taken, rfl, rfl⟩
    exact ⟨⟨value / 8, wireType⟩, start, ⟨value, found, layout, rfl, inside⟩, rfl, taken⟩
  · rintro ⟨⟨field, wireType⟩, start, ⟨value, found, layout, same, inside⟩, named, taken⟩
    obtain ⟨_, part⟩ := one
    simp only at same named taken
    subst same named
    exact ⟨value, start, found, wireType, layout, (), inside, part, rest, taken, rfl, rfl⟩

/-- Behind a key, a record is what the payload of its layout is. -/
theorem record_of_decode {key : Key} {bytes start : Bytes}
    (decoded : Key.decode bytes = .ok (key, start)) :
    record bytes = (payload key.wireType start).map fun pair => (⟨key.field, pair.1⟩, pair.2) := by
  cases taken : payload key.wireType start with
  | none =>
    rw [Option.map_none, Option.eq_none_iff_forall_ne_some]
    rintro ⟨one, rest⟩ found
    obtain ⟨other, after, again, -, cutOut⟩ := record_eq_some_iff.1 found
    rw [decoded] at again
    cases again
    rw [taken] at cutOut
    cases cutOut
  | some pair => exact record_eq_some_iff.2 ⟨key, start, decoded, rfl, taken⟩

/-- Without a key there is no record. -/
theorem record_of_fault {bytes : Bytes} {fault : Fault} (failed : Key.decode bytes = .error fault) :
    record bytes = none := by
  rw [Option.eq_none_iff_forall_ne_some]
  rintro ⟨one, rest⟩ found
  obtain ⟨key, start, decoded, -⟩ := record_eq_some_iff.1 found
  rw [failed] at decoded
  cases decoded

/-! ## Payloads -/

/-- The payload of a number. -/
theorem readNumber_eq_ok_iff {key : Key} {value : Nat} {bytes rest : Bytes} :
    key.readNumber bytes = .ok (value, rest) ↔
      ∃ part, payload key.wireType bytes = some (part, rest) ∧ part.number? = some value := by
  obtain ⟨field, wireType⟩ := key
  constructor
  · intro read
    unfold Key.readNumber Key.expect at read
    cases wireType with
    | varint =>
      have found := readVarint_eq_ok_iff.1 read
      exact ⟨.number value, by simp only [payload, found]; rfl, rfl⟩
    | _ => cases read
  · rintro ⟨part, taken, same⟩
    cases part with
    | number own =>
      cases same
      cases wireType <;> simp only [payload, Option.bind_eq_bind, Option.bind_eq_some_iff,
        Option.pure_def, Option.some.injEq, Prod.mk.injEq, Prod.exists, Payload.number.injEq,
        reduceCtorEq, false_and, and_false, exists_false] at taken
      obtain ⟨_, _, found, rfl, rfl⟩ := taken
      exact readVarint_eq_ok_iff.2 found
    | _ => cases same

/-- A length and so many bytes after it are a block of the grammar. -/
theorem readLength_eq_ok_iff {bytes block rest : Bytes} :
    (∃ length start, readLength bytes = .ok (length, start) ∧ start.take length = block ∧
      start.drop length = rest) ↔ payload .lengthDelimited bytes = some (.block block, rest) := by
  simp only [payload, Option.bind_eq_bind, Option.bind_eq_some_iff, Option.pure_def,
    Option.some.injEq, Prod.mk.injEq, Prod.exists, Payload.block.injEq]
  constructor
  · rintro ⟨length, start, read, rfl, rfl⟩
    have long := (readLength_length read).2
    unfold readLength at read
    split at read
    · cases read
    · rename_i found
      split at read
      · cases read
      · cases read
        exact ⟨length, start, readVarint_eq_ok_iff.1 found, _, _,
          by rw [cut, if_pos long], rfl, rfl⟩
  · rintro ⟨length, start, found, _, _, taken, rfl, rfl⟩
    unfold cut at taken
    split at taken
    · rename_i long
      cases taken
      refine ⟨length, start, ?_, rfl, rfl⟩
      simp only [readLength, readVarint_eq_ok_iff.2 found, if_neg (Nat.not_lt.2 long)]
    · cases taken

/-- The payload of a block. -/
theorem readBlock_eq_ok_iff {key : Key} {block bytes rest : Bytes} :
    key.readBlock bytes = .ok (block, rest) ↔
      ∃ part, payload key.wireType bytes = some (part, rest) ∧ part.block? = some block := by
  obtain ⟨field, wireType⟩ := key
  constructor
  · intro read
    unfold Key.readBlock Key.expect at read
    cases wireType with
    | lengthDelimited =>
      simp only [if_true] at read
      split at read
      · cases read
      · rename_i length start counted
        cases read
        exact ⟨.block (start.take length),
          readLength_eq_ok_iff.1 ⟨length, start, counted, rfl, rfl⟩, rfl⟩
    | _ => cases read
  · rintro ⟨part, taken, same⟩
    cases part with
    | block own =>
      cases same
      have layout : wireType = .lengthDelimited := by
        cases wireType <;> simp [payload, Option.bind_eq_some_iff] at taken ⊢
      subst layout
      obtain ⟨length, start, counted, rfl, rfl⟩ := readLength_eq_ok_iff.2 taken
      simp only [Key.readBlock, Key.expect, if_true, counted]
    | _ => cases same

/-- A payload that is left out is one of the grammar. -/
theorem skipPlain_eq_ok_iff {wireType : WireType} {bytes rest : Bytes} :
    skipPlain wireType bytes = .ok rest ↔
      ∃ part, payload wireType bytes = some (part, rest) ∧ part ≠ .opening ∧ part ≠ .closing := by
  have fixed (count : Nat) (same : ∀ part, payload wireType bytes = some (part, rest) ↔
        ∃ word, cut count bytes = some (word, rest) ∧ .fixed word = part) :
      dropBytes count bytes = .ok rest ↔ ∃ part, payload wireType bytes = some (part, rest) ∧
        part ≠ .opening ∧ part ≠ .closing := by
    simp only [same, dropBytes, cut]
    by_cases long : count ≤ bytes.length
    · simp [long, Nat.not_lt.2 long]
    · simp [long, Nat.lt_of_not_le long]
  cases wireType with
  | varint =>
    simp only [skipPlain, payload, number_eq, readVarint]
    cases Varint.decode bytes <;> simp
  | fixed64 =>
    apply fixed 8
    simp [payload, Option.bind_eq_some_iff]
  | lengthDelimited =>
    rw [skipPlain_lengthDelimited]
    simp only [readBlock_eq_ok_iff]
    constructor
    · rintro ⟨block, part, taken, same⟩
      refine ⟨part, taken, ?_, ?_⟩ <;> rintro rfl <;> cases same
    · rintro ⟨part, taken, -⟩
      simp only [payload, Option.bind_eq_bind, Option.bind_eq_some_iff, Option.pure_def,
        Option.some.injEq, Prod.mk.injEq, Prod.exists] at taken ⊢
      obtain ⟨length, start, found, block, left, cutOut, rfl, rfl⟩ := taken
      exact ⟨block, .block block, ⟨length, start, found, block, left, cutOut, rfl, rfl⟩, rfl⟩
  | startGroup => simp [skipPlain, payload]
  | endGroup => simp [skipPlain, payload]
  | fixed32 =>
    apply fixed 4
    simp [payload, Option.bind_eq_some_iff]

/-- Only the layouts of groups begin and end groups. -/
theorem plain_of_payload {wireType : WireType} {part : Payload} {bytes rest : Bytes}
    (notOpening : wireType ≠ .startGroup) (notClosing : wireType ≠ .endGroup)
    (taken : payload wireType bytes = some (part, rest)) :
    part ≠ .opening ∧ part ≠ .closing := by
  constructor <;> rintro rfl <;>
    cases wireType <;> simp [payload, Option.bind_eq_some_iff] at taken notOpening notClosing

/-! ## Groups -/

theorem records_nil : records [] = some [] := by rw [records, if_pos rfl]

/-- The records of a message are the first and those behind it. -/
theorem records_of_record {one : Record} {bytes rest : Bytes}
    (first : record bytes = some (one, rest)) :
    records bytes = (records rest).map (one :: ·) := by
  have shorter := record_length first
  have more : bytes ≠ [] := by
    rintro rfl
    exact absurd shorter (Nat.not_lt_zero _)
  rw [records, if_neg more]
  split
  · rename_i failed
    rw [first] at failed
    cases failed
  · rename_i same
    rw [first] at same
    cases same
    cases records rest <;> rfl

theorem records_of_none {bytes : Bytes} (more : bytes ≠ []) (failed : record bytes = none) :
    records bytes = none := by
  rw [records, if_neg more]
  split
  · rfl
  · rename_i found
    rw [failed] at found
    cases found

/-- The records of an open group and those after it. -/
theorem outermost_records {field : Nat} {around : List Nat} {bytes rest : Bytes} {one : Record}
    (first : record bytes = some (one, rest)) :
    (records bytes).bind (outermost (field :: around)) =
      (records rest).bind fun others => outermost (field :: around) (one :: others) := by
  rw [records_of_record first, Option.bind_map]
  rfl

theorem outermost_none {field : Nat} {around : List Nat} {bytes : Bytes}
    (failed : record bytes = none) :
    (records bytes).bind (outermost (field :: around)) = none := by
  by_cases empty : bytes = []
  · rw [empty, records_nil]
    rfl
  · rw [records_of_none empty failed]
    rfl

/-- The end of a group is a record of its own. -/
theorem record_of_closing {key : Key} {bytes left : Bytes}
    (found : Key.decode bytes = .ok (key, left)) (closing : key.wireType = .endGroup) :
    record bytes = some (⟨key.field, .closing⟩, left) := by
  rw [record_of_decode found, closing]
  rfl

/-- The records after an open group and the groups around it are those of the bytes after them. -/
theorem outermost_group (field : Nat) (around : List Nat) (bytes : Bytes) :
    (records bytes).bind (outermost (field :: around)) =
      match skipGroup field around bytes with
      | .error _ => none
      | .ok rest => fields rest := by
  fun_induction skipGroup field around bytes with
  | case1 field around bytes fault failed => exact outermost_none (record_of_fault failed)
  | case2 field around bytes key left found opening ih =>
    have first : record bytes = some (⟨key.field, .opening⟩, left) := by
      rw [record_of_decode found, opening]
      rfl
    rw [outermost_records first, ← ih]
    rfl
  | case3 bytes key left found closing =>
    rw [outermost_records (record_of_closing found closing)]
    simp only [outermost, if_true]
    rfl
  | case4 bytes key left found closing outer more ih =>
    rw [outermost_records (record_of_closing found closing), ← ih]
    simp only [outermost, if_true]
  | case5 field around bytes key left found closing other =>
    rw [outermost_records (record_of_closing found closing)]
    simp only [outermost, if_neg other]
    cases records left <;> rfl
  | case6 field around bytes key left found fault notOpening notClosing failed =>
    have none : payload key.wireType left = none := by
      rw [Option.eq_none_iff_forall_ne_some]
      rintro ⟨part, rest⟩ taken
      have passed := skipPlain_eq_ok_iff.2 ⟨_, taken, plain_of_payload notOpening notClosing taken⟩
      rw [failed] at passed
      cases passed
    apply outermost_none
    rw [record_of_decode found, none, Option.map_none]
  | case7 field around bytes key left found next notOpening notClosing skipped ih =>
    obtain ⟨part, taken, notOpening, notClosing⟩ := skipPlain_eq_ok_iff.1 skipped
    have first : record bytes = some (⟨key.field, part⟩, next) := by
      rw [record_of_decode found, taken, Option.map_some]
    rw [outermost_records first, ← ih]
    cases part with
    | opening => exact absurd rfl notOpening
    | closing => exact absurd rfl notClosing
    | _ => rfl

/-- What is left of a message behind a record and, if that opens a group, the rest of it. -/
def Leaves (one : Record) (middle rest : Bytes) : Prop :=
  match one.payload with
  | .opening => skipGroup one.field [] middle = .ok rest
  | .closing => False
  | _ => middle = rest

/-- Behind the first record, the fields of a message are those of what it leaves. -/
theorem fields_of_record {one : Record} {bytes middle : Bytes} {found : List Record}
    (first : record bytes = some (one, middle)) :
    fields bytes = some found ↔ ∃ rest, Leaves one middle rest ∧
      ∃ others, fields rest = some others ∧ found = one :: others := by
  obtain ⟨field, part⟩ := one
  have split : fields bytes = (records middle).bind fun others =>
      outermost [] (⟨field, part⟩ :: others) := by
    simp only [fields, records_of_record first, Option.bind_eq_bind, Option.bind_map]
    rfl
  -- Whatever is left, its fields go behind the record.
  have head (rest : Bytes) : (fields rest).map (⟨field, part⟩ :: ·) = some found ↔
      ∃ others, fields rest = some others ∧ found = ⟨field, part⟩ :: others := by
    simp only [Option.map_eq_some_iff, @eq_comm _ found]
  simp only [← head, Leaves]
  cases part with
  | opening =>
    have opened : fields bytes =
        ((records middle).bind (outermost [field])).map (⟨field, .opening⟩ :: ·) := by
      rw [split]
      cases records middle <;> rfl
    rw [opened, outermost_group]
    cases skipGroup field [] middle <;> simp
  | closing =>
    rw [split]
    cases records middle <;> simp [outermost]
  | _ =>
    rw [split]
    simp only [exists_eq_left']
    rw [fields]
    cases records middle <;> rfl

/-- The fields of a message are the first record, if it ends no group, and those behind it. -/
theorem fields_eq_some_iff {bytes : Bytes} {found : List Record} (more : bytes ≠ []) :
    fields bytes = some found ↔ ∃ one middle rest others, record bytes = some (one, middle) ∧
      Leaves one middle rest ∧ fields rest = some others ∧ found = one :: others := by
  cases first : record bytes with
  | none =>
    have failed : fields bytes = none := by
      rw [fields, records_of_none more first]
      rfl
    simp only [failed, reduceCtorEq, false_and, exists_false]
  | some pair =>
    obtain ⟨one, middle⟩ := pair
    rw [fields_of_record first]
    constructor
    · rintro ⟨rest, leaves, others, inner, same⟩
      exact ⟨one, middle, rest, others, rfl, leaves, inner, same⟩
    · rintro ⟨_, _, rest, others, ⟨⟩, leaves, inner, same⟩
      exact ⟨rest, leaves, others, inner, same⟩

/-- The fields of no bytes. -/
theorem fields_nil : fields [] = some [] := by
  rw [fields, records_nil]
  rfl

/-! ## Messages -/

variable {α : Type}

/-- The fields of a message are read as its records are taken, for payloads below a bound. -/
def AgreesBelow (reader : Reader α) (step : α → Record → Option α) (bound : Nat) : Prop :=
  ∀ (message next : α) (key : Key) (bytes rest : Bytes), bytes.length < bound →
    (reader.field message key bytes = .ok (next, rest) ↔
      ∃ part middle, payload key.wireType bytes = some (part, middle) ∧
        Leaves ⟨key.field, part⟩ middle rest ∧ step message ⟨key.field, part⟩ = some next)

/-- A message with bytes left is read by its first field and then by the others. -/
theorem merge_cons_eq_ok_iff {reader : Reader α} {message merged : α} {bytes : Bytes}
    (more : bytes ≠ []) :
    reader.merge 0 message bytes = .ok (merged, []) ↔
      ∃ key start next rest, Key.decode bytes = .ok (key, start) ∧
        reader.field message key start = .ok (next, rest) ∧
        reader.merge 0 next rest = .ok (merged, []) := by
  constructor
  · intro read
    rw [Reader.merge, if_neg (by simpa using more)] at read
    split at read
    · cases read
    · rename_i key start decoded
      split at read
      · cases read
      · rename_i next rest found
        exact ⟨key, start, next, rest, decoded, found, read⟩
  · rintro ⟨key, start, next, rest, decoded, found, read⟩
    rw [reader.merge_field decoded found (Nat.zero_le _), read]

/-- A message is read from the shared bytes exactly if its records are taken. -/
theorem merge_eq_ok_iff {reader : Reader α} {step : α → Record → Option α} {bound : Nat}
    (agrees : AgreesBelow reader step bound) {message merged : α} {bytes : Bytes}
    (short : bytes.length ≤ bound) :
    reader.merge 0 message bytes = .ok (merged, []) ↔
      ∃ found, fields bytes = some found ∧ found.foldlM step message = some merged := by
  by_cases empty : bytes = []
  · subst empty
    rw [reader.merge_done (Nat.le_refl 0), fields_nil]
    simp
  · rw [merge_cons_eq_ok_iff empty]
    simp only [fields_eq_some_iff empty, record_eq_some_iff]
    constructor
    · rintro ⟨key, start, next, rest, decoded, found, read⟩
      have shorter := Key.decode_length decoded
      have notLonger := reader.field_length found
      obtain ⟨part, middle, taken, leaves, stepped⟩ :=
        (agrees message next key start rest (by omega)).1 found
      obtain ⟨others, split, folded⟩ := (merge_eq_ok_iff agrees (by omega)).1 read
      refine ⟨_, ⟨⟨key.field, part⟩, middle, rest, others,
        ⟨key, start, decoded, rfl, taken⟩, leaves, split, rfl⟩, ?_⟩
      rw [List.foldlM_cons, stepped]
      exact folded
    · rintro ⟨_, ⟨⟨field, part⟩, middle, rest, others, ⟨key, start, decoded, rfl, taken⟩, leaves,
        split, rfl⟩, folded⟩
      have shorter := Key.decode_length decoded
      rw [List.foldlM_cons, Option.bind_eq_bind, Option.bind_eq_some_iff] at folded
      obtain ⟨next, stepped, folded⟩ := folded
      have found := (agrees message next key start rest (by omega)).2
        ⟨part, middle, taken, leaves, stepped⟩
      have notLonger := reader.field_length found
      exact ⟨key, start, next, rest, decoded, found,
        (merge_eq_ok_iff agrees (by omega)).2 ⟨others, split, folded⟩⟩
termination_by bytes.length
decreasing_by all_goals omega

/-! ## Fields -/

section
variable {key : Key} {bytes rest : Bytes}

/-- A payload behind which the rest of the message begins is no start or end of a group. -/
theorem leaves_of_plain {field : Nat} {part : Payload} {middle : Bytes}
    (plain : part ≠ .opening ∧ part ≠ .closing) :
    Leaves ⟨field, part⟩ middle rest ↔ middle = rest := by
  cases part with
  | opening => exact absurd rfl plain.1
  | closing => exact absurd rfl plain.2
  | _ => exact Iff.rfl

/-- A field that the schema does not know is passed over with all of its group. -/
theorem skip_eq_ok_iff : key.skip bytes = .ok rest ↔
    ∃ part middle, payload key.wireType bytes = some (part, middle) ∧
      Leaves ⟨key.field, part⟩ middle rest := by
  obtain ⟨field, wireType⟩ := key
  by_cases opening : wireType = .startGroup
  · subst opening
    simp [Key.skip, payload, Leaves]
  · have plain : (⟨field, wireType⟩ : Key).skip bytes = skipPlain wireType bytes := by
      cases wireType <;> first | rfl | exact absurd rfl opening
    rw [plain, skipPlain_eq_ok_iff]
    constructor
    · rintro ⟨part, taken, passes⟩
      exact ⟨part, rest, taken, (leaves_of_plain passes).2 rfl⟩
    · rintro ⟨part, middle, taken, leaves⟩
      have passes : part ≠ .opening ∧ part ≠ .closing := by
        by_cases closing : wireType = .endGroup
        · subst closing
          cases taken
          exact leaves.elim
        · exact plain_of_payload opening closing taken
      have same := (leaves_of_plain passes).1 leaves
      subst same
      exact ⟨part, taken, passes⟩

/-- A field that the schema declares, with what it takes from a payload. Nothing is taken from the
start or the end of a group, so behind the payload the rest of the message begins. -/
theorem declared_agrees {β : Type} {read : Except Fault (β × Bytes)} {get : Payload → Option β}
    (opening : get .opening = none) (closing : get .closing = none)
    (reads : ∀ value, read = .ok (value, rest) ↔
      ∃ part, payload key.wireType bytes = some (part, rest) ∧ get part = some value)
    {put : β → Option α} {next : α} :
    (∃ value, read = .ok (value, rest) ∧ put value = some next) ↔
      ∃ part middle, payload key.wireType bytes = some (part, middle) ∧
        Leaves ⟨key.field, part⟩ middle rest ∧ (get part).bind put = some next := by
  have plain {part : Payload} {value : β} (got : get part = some value) :
      part ≠ .opening ∧ part ≠ .closing := by
    constructor <;> rintro rfl
    · rw [opening] at got
      cases got
    · rw [closing] at got
      cases got
  simp only [reads, Option.bind_eq_some_iff]
  constructor
  · rintro ⟨value, ⟨part, taken, got⟩, stepped⟩
    exact ⟨part, rest, taken, (leaves_of_plain (plain got)).2 rfl, value, got, stepped⟩
  · rintro ⟨part, middle, taken, leaves, value, got, stepped⟩
    have same := (leaves_of_plain (plain got)).1 leaves
    subst same
    exact ⟨value, ⟨part, taken, got⟩, stepped⟩

/-- A field that the schema declares as a number. -/
theorem number_agrees {put : Nat → α} {next : α} :
    (∃ value, key.readNumber bytes = .ok (value, rest) ∧ put value = next) ↔
      ∃ part middle, payload key.wireType bytes = some (part, middle) ∧
        Leaves ⟨key.field, part⟩ middle rest ∧ part.number?.map put = some next := by
  simp only [Option.map_eq_bind, ← declared_agrees rfl rfl fun _ => readNumber_eq_ok_iff,
    Function.comp_apply, Option.some.injEq]

/-- A field that the schema declares as a block. -/
theorem block_agrees {put : Bytes → Option α} {next : α} :
    (∃ block, key.readBlock bytes = .ok (block, rest) ∧ put block = some next) ↔
      ∃ part middle, payload key.wireType bytes = some (part, middle) ∧
        Leaves ⟨key.field, part⟩ middle rest ∧ part.block?.bind put = some next :=
  declared_agrees rfl rfl fun _ => readBlock_eq_ok_iff

/-- A field that the schema does not know. -/
theorem skipped_agrees {message next : α} :
    (between (key.skip bytes)).map (fun rest => (message, rest)) = .ok (next, rest) ↔
      ∃ part middle, payload key.wireType bytes = some (part, middle) ∧
        Leaves ⟨key.field, part⟩ middle rest ∧ some message = some next := by
  rw [skipped_eq_ok_iff, skip_eq_ok_iff]
  simp only [Option.some.injEq, ← and_assoc, exists_and_right]

/-- A field that the schema declares as a message. Its reader may look past its end, but what it
accepts is what its block is by itself. -/
theorem nested_agrees {β : Type} {reader : Reader β} {step : β → Record → Option β} {bound : Nat}
    (prefixes : reader.PrefixBelow bound) (agrees : AgreesBelow reader step bound)
    (short : bytes.length ≤ bound) {field : Field} {message : β} {put : β → α} {next : α} :
    (∃ merged, reader.nested field message key bytes = .ok (merged, rest) ∧ put merged = next) ↔
      ∃ part middle, payload key.wireType bytes = some (part, middle) ∧
        Leaves ⟨key.field, part⟩ middle rest ∧ (part.block?.bind fun block =>
          ((fields block).bind (·.foldlM step message)).map put) = some next := by
  rw [← block_agrees]
  simp only [Option.map_eq_some_iff, Option.bind_eq_some_iff]
  constructor
  · rintro ⟨merged, read, stepped⟩
    obtain ⟨block, cutOut, whole⟩ := reader.block_of_nested prefixes short read
    have shorter := Key.readBlock_lengths cutOut
    exact ⟨block, cutOut, merged, (merge_eq_ok_iff agrees (by omega)).1 whole, stepped⟩
  · rintro ⟨block, cutOut, merged, taken, stepped⟩
    have shorter := Key.readBlock_lengths cutOut
    have whole := (merge_eq_ok_iff agrees (by omega)).2 taken
    exact ⟨merged, reader.nested_of_block prefixes field (by omega) cutOut whole, stepped⟩

end

/-- A field of a value that is no child. -/
theorem plainField_agrees {value next : Value} {key : Key} {bytes rest : Bytes} :
    value.plainField key bytes = .ok (next, rest) ↔
      ∃ part middle, payload key.wireType bytes = some (part, middle) ∧
        Leaves ⟨key.field, part⟩ middle rest ∧
        plainStep value ⟨key.field, part⟩ = some next := by
  unfold Value.plainField
  split <;> rename_i number
  · simp only [into_eq_ok_iff, inField_eq_ok_iff, number_agrees, plainStep, number]
    rfl
  · simp only [into_eq_ok_iff, inField_eq_ok_iff, number_agrees, plainStep, number]
  · simp only [into_eq_ok_iff, inField_eq_ok_iff, number_agrees, plainStep, number]
  · simp only [into_eq_ok_iff, inField_eq_ok_iff, ← @Option.some_inj _ _ next, block_agrees,
      plainStep, number, Option.map_eq_bind]
    rfl
  · simp only [skipped_agrees, plainStep]

/-- A record of a value. -/
def valueStep (value : Value) (one : Record) : Option Value :=
  if one.field = 5 then
    one.payload.block?.bind fun block => do
      let child ← readValue {} (← fields block)
      return { value with children := value.children ++ [child] }
  else plainStep value one

/-- The records of a value are taken one by one. -/
theorem readValue_eq (value : Value) (all : List Record) :
    readValue value all = all.foldlM valueStep value := by
  induction all generalizing value with
  | nil =>
    rw [readValue]
    rfl
  | cons one rest ih =>
    rw [readValue, List.foldlM_cons, valueStep]
    split
    · split
      · rename_i none
        simp [none]
      · rename_i block found
        split
        · rename_i none
          simp [found, none]
        · rename_i inner split
          split
          · rename_i none
            simp [found, split, none]
          · rename_i child read
            simp [found, split, read, ih]
    · split
      · rename_i none
        simp [none]
      · rename_i next stepped
        simp [stepped, ih]

/-- The fields of a value are read as its records are taken, at every depth. -/
theorem value_agrees (bound : Nat) : AgreesBelow Value.reader valueStep bound := by
  induction bound with
  | zero =>
    intro value next key bytes rest short
    exact absurd short (Nat.not_lt_zero _)
  | succ bound ih =>
    intro value next key bytes rest short
    change value.field key bytes = .ok (next, rest) ↔ _
    unfold Value.field valueStep
    split
    · rename_i child
      simp only [child, into_eq_ok_iff, Value.readChild_eq_nested, readValue_eq,
        nested_agrees (Value.reader_prefix bound) ih (Nat.le_of_lt_succ short)]
      simp only [Option.map_eq_bind, Option.bind_assoc]
      rfl
    · exact plainField_agrees

/-- The field of a name, whose block has to be a text. -/
theorem name_agrees {α : Type} {key : Key} {bytes rest : Bytes} {put : String → α} {next : α} :
    (∃ name, Entry.readName key bytes = .ok (name, rest) ∧ put name = next) ↔
      ∃ part middle, payload key.wireType bytes = some (part, middle) ∧
        Leaves ⟨key.field, part⟩ middle rest ∧ (part.block?.bind fun block =>
          (String.fromUTF8? ⟨block.toArray⟩).map put) = some next := by
  rw [← block_agrees]
  simp only [← Utf8.toOption_decode]
  constructor
  · rintro ⟨name, read, rfl⟩
    unfold Entry.readName at read
    split at read
    · cases read
    · rename_i block left cutOut
      split at read
      · cases read
      · rename_i text decoded
        cases read
        exact ⟨block, cutOut, by rw [decoded]; rfl⟩
  · rintro ⟨block, cutOut, decoded⟩
    cases text : Utf8.decode block with
    | error =>
      rw [text] at decoded
      cases decoded
    | ok name =>
      rw [text] at decoded
      cases decoded
      exact ⟨name, by simp only [Entry.readName, cutOut, text], rfl⟩

/-- A field of an entry. -/
theorem entry_agrees (role : Role) (bound : Nat) :
    AgreesBelow (Entry.reader role) entryStep bound := by
  intro entry next key bytes rest short
  change Entry.field role entry key bytes = .ok (next, rest) ↔ _
  unfold Entry.field
  split <;> rename_i number
  · simp only [into_eq_ok_iff, inField_eq_ok_iff, name_agrees, entryStep, number]
    simp only [Option.map_eq_bind]
    rfl
  · simp only [into_eq_ok_iff, entryStep, number, readValue_eq,
      nested_agrees (Value.reader_prefix _) (value_agrees _) (Nat.le_refl _)]
    simp only [Option.map_eq_bind, Option.bind_assoc]
    rfl
  · simp only [skipped_agrees, entryStep]

/-- A field of a root. -/
theorem root_agrees (bound : Nat) : AgreesBelow Root.reader rootStep bound := by
  intro root next key bytes rest short
  change root.field key bytes = .ok (next, rest) ↔ _
  unfold Root.field
  split <;> rename_i number
  · simp only [into_eq_ok_iff, rootStep, number, readEntry,
      nested_agrees (Entry.reader_prefix .call _) (entry_agrees .call _) (Nat.le_refl _)]
    simp only [Option.map_eq_bind]
    rfl
  · simp only [into_eq_ok_iff, rootStep, number, readEntry,
      nested_agrees (Entry.reader_prefix .stream _) (entry_agrees .stream _) (Nat.le_refl _)]
    simp only [Option.map_eq_bind]
    rfl
  · simp only [skipped_agrees, rootStep]

/-- A root is read from all bytes as the root that its records are. -/
theorem decode_eq_ok_iff_readRoot {bytes : Bytes} {root : Root} :
    Root.decode bytes = .ok root ↔ readRoot bytes = some root := by
  rw [Root.decode_eq_ok_iff, merge_eq_ok_iff (root_agrees bytes.length) (Nat.le_refl _)]
  simp only [readRoot, Option.bind_eq_bind, Option.bind_eq_some_iff]

/-! ## Documents -/

/-- The type with a number has that number. -/
theorem tag_code (type : NodeType) : tag type.code = .known type := by cases type <;> decide

/-- A number that no type has stands for itself. -/
theorem tag_unknown {code : Int32} (missing : NodeType.ofCode? code = none) :
    tag code = .unknown code := by
  have none : NodeType.all.filter (fun type => type.code = code) = [] := by
    rw [List.filter_eq_nil_iff]
    exact List.find?_eq_none.1 missing
  rw [tag, none]

/-- The kinds with a payload stand under the numbers of their types. -/
theorem lookup_payloadKinds {code : Int32}
    (plain : code ∉ NodeType.withPayload.map NodeType.code) (slot : Option Slot) :
    (payloadKinds slot).lookup code = none := by
  have numbers : ∀ own ∈ (payloadKinds slot).map Prod.fst,
      own ∈ NodeType.withPayload.map NodeType.code := by
    simp [payloadKinds, NodeType.withPayload, NodeType.code]
  rw [List.lookup_eq_none_iff]
  intro pair inside
  rw [bne_iff_ne]
  rintro rfl
  exact plain (numbers _ (List.mem_map_of_mem inside))

/-- The kind of a value is the one that the loader gives it. -/
theorem kind_eq (code : Int32) (slot : Option Slot) : kind code slot = kindOf code slot := by
  obtain missing | ⟨type, plain, rfl⟩ | ⟨type, payload, rfl⟩ := tag_cases code
  · have other : code ∉ NodeType.withPayload.map NodeType.code := by
      intro inside
      obtain ⟨type, -, rfl⟩ := List.mem_map.1 inside
      cases type.ofCode?_code.symm.trans missing
    rw [kindOf_unknown missing, kind, lookup_payloadKinds other, tag_unknown missing]
    rfl
  · have other : type.code ∉ NodeType.withPayload.map NodeType.code := by
      intro inside
      obtain ⟨own, listed, same⟩ := List.mem_map.1 inside
      have found := own.ofCode?_code
      rw [same, type.ofCode?_code] at found
      cases found
      exact plain listed
    rw [kindOf_plain plain, kind, lookup_payloadKinds other, tag_code]
    rfl
  · simp only [NodeType.withPayload, List.mem_cons, List.not_mem_nil, or_false] at payload
    obtain rfl | rfl | rfl | rfl | rfl | rfl := payload
    all_goals rcases slot with _ | ((_ | _) | _ | _) <;> rfl

mutual

/-- The tree of a value is the one that the loader makes. -/
theorem tree_eq : ∀ value, tree value = Tree.ofWire value
  | ⟨code, slot, children⟩ => by rw [tree, Tree.ofWire, kind_eq, trees_eq]

/-- The trees of some values are those that the loader makes. -/
theorem trees_eq : ∀ values, trees values = Tree.forestOfWire values
  | [] => rfl
  | first :: rest => by rw [trees, Tree.forestOfWire, tree_eq, trees_eq]

end

/-- An entry is the one that the loader makes. -/
theorem entry_eq (found : Entry) : entry found = AstView.Entry.ofWire found := by
  obtain ⟨name, value⟩ := found
  cases value with
  | none => rfl
  | some value => exact congrArg (AstView.Entry.mk name) (tree_eq value)

/-- The document of a root is the one that the loader makes. -/
theorem document_eq (root : Root) : document root = Document.ofWire root := by
  simp only [document, Document.ofWire, funext entry_eq]

/-- The loader accepts exactly the grammar: it finds a root in a byte list if and only if cutting
the bytes up gives that root, and it reads a document out of them if and only if the grammar makes
that document of what has been cut out. -/
theorem loader_accepts_iff (bytes : Bytes) :
    (∀ root, Root.decode bytes = .ok root ↔ readRoot bytes = some root) ∧
      ∀ document, Document.load bytes = .ok document ↔ load bytes = some document := by
  refine ⟨fun root => decode_eq_ok_iff_readRoot, fun document => ?_⟩
  have roots : Document.load bytes = .ok document ↔
      ∃ root, Root.decode bytes = .ok root ∧ Document.ofWire root = document := by
    unfold Document.load
    cases Root.decode bytes <;> simp [Except.map]
  rw [roots]
  simp only [decode_eq_ok_iff_readRoot, load, Option.bind_eq_bind, Option.bind_eq_some_iff,
    Option.pure_def, Option.some.injEq, document_eq]

end AstView.Wire.Slice

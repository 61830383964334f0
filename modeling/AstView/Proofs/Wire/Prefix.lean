import AstView.Wire.Decode
import Mathlib.Tactic.Basic

/-!
# What a reader depends on

A reader that succeeds has used some bytes from the front and returns the others. It depends on
those it has used only: with any other bytes behind them it returns the same value and those
bytes (`UsesPrefixAt`). This holds of every payload and, although their fields are read from bytes
that go on after them, of nested messages: a field that ran past the end of its message would
leave fewer bytes than its limit, and no later field gives them back.

So a nested message is read exactly if the bytes that its length cuts out are read by themselves
as a whole message (`Reader.block_of_nested` and `Reader.nested_of_block`).
-/
namespace AstView.Wire

variable {α ε : Type}

/-- On these bytes a reader depends on the bytes that it uses only. -/
def UsesPrefixAt (read : Bytes → Except ε (α × Bytes)) (bytes : Bytes) : Prop :=
  ∀ value rest, read bytes = .ok (value, rest) →
    ∃ used, bytes = used ++ rest ∧ ∀ after, read (used ++ after) = .ok (value, after)

/-- The same of a reader that returns no value. -/
def SkipsPrefixAt (skip : Bytes → Except ε Bytes) (bytes : Bytes) : Prop :=
  ∀ rest, skip bytes = .ok rest →
    ∃ used, bytes = used ++ rest ∧ ∀ after, skip (used ++ after) = .ok after

/-! ## Payloads -/

/-- A number uses the bytes up to the first without its top bit. -/
theorem decodeAt_prefix {place value : Nat} {bytes rest : Bytes}
    (read : Varint.decodeAt place bytes = some (value, rest)) :
    ∃ used, bytes = used ++ rest ∧
      ∀ after, Varint.decodeAt place (used ++ after) = some (value, after) := by
  induction bytes generalizing place value with
  | nil => cases read
  | cons next tail ih =>
    rw [Varint.decodeAt] at read
    split at read
    · rename_i last
      split at read
      · rename_i small
        cases read
        exact ⟨[next], rfl, fun after => by
          rw [List.cons_append, Varint.decodeAt, if_pos last, if_pos small]
          rfl⟩
      · cases read
    · rename_i middle
      split at read
      · rename_i small
        cases read
        exact ⟨[next], rfl, fun after => by
          rw [List.cons_append, Varint.decodeAt, if_neg middle, if_pos small]
          rfl⟩
      · rename_i large
        split at read
        · cases read
        · rename_i high left inner
          cases read
          obtain ⟨used, rfl, again⟩ := ih inner
          exact ⟨next :: used, rfl, fun after => by
            rw [List.cons_append, Varint.decodeAt, if_neg middle, if_neg large, again]⟩

theorem readVarint_prefix (bytes : Bytes) : UsesPrefixAt readVarint bytes := by
  intro value rest read
  unfold readVarint at read
  split at read
  · cases read
  · rename_i pair found
    cases read
    obtain ⟨used, same, again⟩ := decodeAt_prefix found
    exact ⟨used, same, fun after => by
      rw [readVarint, Varint.decode, again]⟩

theorem dropBytes_prefix (count : Nat) (bytes : Bytes) : SkipsPrefixAt (dropBytes count) bytes := by
  intro rest read
  unfold dropBytes at read
  split at read
  · cases read
  · rename_i enough
    cases read
    refine ⟨bytes.take count, (List.take_append_drop count bytes).symm, fun after => ?_⟩
    have length : (bytes.take count).length = count := by
      rw [List.length_take]
      omega
    rw [dropBytes, if_neg (by rw [List.length_append]; omega),
      List.drop_left' length]

/-- A length uses its own bytes; those that it counts come after it. -/
theorem readLength_prefix {length : Nat} {bytes rest : Bytes}
    (read : readLength bytes = .ok (length, rest)) :
    ∃ used, bytes = used ++ rest ∧ length ≤ rest.length ∧ ∀ after : Bytes,
      length ≤ after.length → readLength (used ++ after) = .ok (length, after) := by
  unfold readLength at read
  split at read
  · cases read
  · rename_i found
    split at read
    · cases read
    · rename_i enough
      cases read
      obtain ⟨used, same, again⟩ := readVarint_prefix _ _ _ found
      refine ⟨used, same, by omega, fun after long => ?_⟩
      simp only [readLength, again, if_neg (Nat.not_lt.2 long)]

theorem Key.decode_prefix (bytes : Bytes) : UsesPrefixAt Key.decode bytes := by
  intro key rest read
  unfold Key.decode at read
  split at read
  · cases read
  · rename_i value left found
    split at read
    · cases read
    · rename_i small
      split at read
      · cases read
      · rename_i wireType layout
        split at read
        · cases read
        · rename_i named
          cases read
          obtain ⟨used, same, again⟩ := readVarint_prefix _ _ _ found
          refine ⟨used, same, fun after => ?_⟩
          simp only [Key.decode, again, if_neg small, layout, if_neg named]

theorem Key.readNumber_prefix (key : Key) (bytes : Bytes) :
    UsesPrefixAt key.readNumber bytes := by
  intro value rest read
  unfold Key.readNumber at read
  split at read
  · cases read
  · rename_i expected
    obtain ⟨used, same, again⟩ := readVarint_prefix _ _ _ read
    exact ⟨used, same, fun after => by simp only [Key.readNumber, expected, again]⟩

theorem Key.readBlock_prefix (key : Key) (bytes : Bytes) : UsesPrefixAt key.readBlock bytes := by
  intro block rest read
  unfold Key.readBlock at read
  split at read
  · cases read
  · rename_i expected
    split at read
    · cases read
    · rename_i length start found
      cases read
      obtain ⟨used, rfl, long, again⟩ := readLength_prefix found
      have exact : (start.take length).length = length := by
        rw [List.length_take]
        omega
      refine ⟨used ++ start.take length, by rw [List.append_assoc, List.take_append_drop],
        fun after => ?_⟩
      have enough : length ≤ (start.take length ++ after).length := by
        rw [List.length_append]
        omega
      simp only [Key.readBlock, expected, List.append_assoc, again _ enough,
        List.take_left' exact, List.drop_left' exact]

/-- A block and what follows it are shorter than what they were read from. -/
theorem Key.readBlock_lengths {key : Key} {block bytes rest : Bytes}
    (read : key.readBlock bytes = .ok (block, rest)) :
    block.length + rest.length < bytes.length := by
  unfold Key.readBlock at read
  split at read
  · cases read
  · split at read
    · cases read
    · rename_i counted
      cases read
      have long := readLength_length counted
      rw [List.length_take, List.length_drop]
      omega

/-- A block that is left out is one that is not kept. -/
theorem skipPlain_lengthDelimited {bytes rest : Bytes} :
    skipPlain .lengthDelimited bytes = .ok rest ↔
      ∃ block, (⟨1, .lengthDelimited⟩ : Key).readBlock bytes = .ok (block, rest) := by
  simp only [skipPlain, Key.readBlock, Key.expect, if_true]
  cases readLength bytes with
  | error fault => simp only [reduceCtorEq, exists_false]
  | ok found =>
    constructor
    · intro same
      cases same
      exact ⟨_, rfl⟩
    · rintro ⟨block, same⟩
      cases same
      rfl

theorem skipPlain_prefix (wireType : WireType) (bytes : Bytes) :
    SkipsPrefixAt (skipPlain wireType) bytes := by
  intro rest read
  cases wireType with
  | varint =>
    simp only [skipPlain] at read
    split at read
    · cases read
    · rename_i found
      cases read
      obtain ⟨used, same, again⟩ := readVarint_prefix _ _ _ found
      exact ⟨used, same, fun after => by simp only [skipPlain, again]⟩
  | fixed32 => exact dropBytes_prefix 4 bytes rest read
  | fixed64 => exact dropBytes_prefix 8 bytes rest read
  | lengthDelimited =>
    obtain ⟨block, found⟩ := skipPlain_lengthDelimited.1 read
    obtain ⟨used, same, again⟩ := Key.readBlock_prefix _ _ _ _ found
    exact ⟨used, same, fun after => skipPlain_lengthDelimited.2 ⟨block, again after⟩⟩
  | startGroup => cases read
  | endGroup => cases read

section
variable {field : Nat} {around : List Nat} {bytes left : Bytes} {key : Key}
  (found : Key.decode bytes = .ok (key, left))
include found

/-- A group in a group is left out first. -/
theorem skipGroup_opening (opening : key.wireType = .startGroup) :
    skipGroup field around bytes = skipGroup key.field (field :: around) left := by
  rw [skipGroup]
  split
  · rename_i failed
    rw [found] at failed
    cases failed
  · rename_i same
    rw [found] at same
    cases same
    simp only [opening]

/-- The key that closes a group has its number. -/
theorem skipGroup_closing (closing : key.wireType = .endGroup) :
    skipGroup field around bytes =
      if key.field = field then
        match around with
        | [] => .ok left
        | outer :: more => skipGroup outer more left
      else .error .endGroup := by
  rw [skipGroup]
  split
  · rename_i failed
    rw [found] at failed
    cases failed
  · rename_i same
    rw [found] at same
    cases same
    obtain ⟨number, wireType⟩ := key
    subst closing
    rfl

/-- Any other payload in a group is left out. -/
theorem skipGroup_plain (plain : key.wireType ≠ .startGroup ∧ key.wireType ≠ .endGroup) :
    skipGroup field around bytes =
      match skipPlain key.wireType left with
      | .error fault => .error fault
      | .ok rest => skipGroup field around rest := by
  rw [skipGroup]
  split
  · rename_i failed
    rw [found] at failed
    cases failed
  · rename_i same
    rw [found] at same
    cases same
    split
    · rename_i opening
      exact absurd opening plain.1
    · rename_i closing
      exact absurd closing plain.2
    · split <;> rename_i skipped <;> simp only [skipped]

end

/-- What is left out of a group ends with the key that closes it. -/
theorem skipGroup_prefix (field : Nat) (around : List Nat) (bytes : Bytes) :
    SkipsPrefixAt (skipGroup field around) bytes := by
  intro rest read
  fun_induction skipGroup field around bytes with
  | case1 => cases read
  | case2 field around bytes key left found opens ih =>
    obtain ⟨first, rfl, begins⟩ := Key.decode_prefix _ _ _ found
    obtain ⟨used, rfl, again⟩ := ih read
    refine ⟨first ++ used, (List.append_assoc _ _ _).symm, fun after => ?_⟩
    rw [List.append_assoc, skipGroup_opening (begins _) opens]
    exact again after
  | case3 bytes key left found closes =>
    cases read
    obtain ⟨first, rfl, begins⟩ := Key.decode_prefix _ _ _ found
    refine ⟨first, rfl, fun after => ?_⟩
    rw [skipGroup_closing (begins _) closes, if_pos rfl]
  | case4 bytes key left found closes outer more ih =>
    obtain ⟨first, rfl, begins⟩ := Key.decode_prefix _ _ _ found
    obtain ⟨used, rfl, again⟩ := ih read
    refine ⟨first ++ used, (List.append_assoc _ _ _).symm, fun after => ?_⟩
    rw [List.append_assoc, skipGroup_closing (begins _) closes, if_pos rfl]
    exact again after
  | case5 => cases read
  | case6 => cases read
  | case7 field around bytes key left found next notOpening notClosing skipped ih =>
    obtain ⟨first, rfl, begins⟩ := Key.decode_prefix _ _ _ found
    obtain ⟨middle, rfl, passes⟩ := skipPlain_prefix _ _ _ skipped
    obtain ⟨used, rfl, again⟩ := ih read
    refine ⟨first ++ (middle ++ used), by simp only [List.append_assoc], fun after => ?_⟩
    rw [List.append_assoc, skipGroup_plain (begins _) ⟨notOpening, notClosing⟩, List.append_assoc]
    simp only [passes, again]

theorem Key.skip_prefix (key : Key) (bytes : Bytes) : SkipsPrefixAt key.skip bytes := by
  obtain ⟨field, wireType⟩ := key
  cases wireType with
  | startGroup => exact skipGroup_prefix field [] bytes
  | varint => exact skipPlain_prefix .varint bytes
  | fixed64 => exact skipPlain_prefix .fixed64 bytes
  | lengthDelimited => exact skipPlain_prefix .lengthDelimited bytes
  | endGroup => exact skipPlain_prefix .endGroup bytes
  | fixed32 => exact skipPlain_prefix .fixed32 bytes

/-! ## Fields -/

theorem UsesPrefixAt.inField {read : Bytes → Except Fault (α × Bytes)} {bytes : Bytes}
    (own : UsesPrefixAt read bytes) (field : Field) :
    UsesPrefixAt (fun bytes => Wire.inField field (read bytes)) bytes := by
  intro value rest found
  obtain ⟨used, same, again⟩ := own value rest (inField_eq_ok_iff.1 found)
  exact ⟨used, same, fun after => inField_eq_ok_iff.2 (again after)⟩

theorem UsesPrefixAt.into {β : Type} {read : Bytes → Except DecodeError (α × Bytes)}
    {bytes : Bytes} (own : UsesPrefixAt read bytes) (put : α → β) :
    UsesPrefixAt (fun bytes => Wire.into put (read bytes)) bytes := by
  intro merged rest found
  obtain ⟨value, inner, put⟩ := into_eq_ok_iff.1 found
  obtain ⟨used, same, again⟩ := own value rest inner
  exact ⟨used, same, fun after => into_eq_ok_iff.2 ⟨value, again after, put⟩⟩

/-- A field that the schema does not know leaves the message as it is. -/
theorem skipped_eq_ok_iff {message merged : α} {key : Key} {bytes rest : Bytes} :
    (between (key.skip bytes)).map (fun rest => (message, rest)) = .ok (merged, rest) ↔
      key.skip bytes = .ok rest ∧ message = merged := by
  cases key.skip bytes <;> simp [between, Except.map, and_comm]

theorem skipped_prefix (message : α) (key : Key) (bytes : Bytes) :
    UsesPrefixAt (fun bytes => (between (key.skip bytes)).map fun rest => (message, rest))
      bytes := by
  intro merged rest found
  obtain ⟨skipped, kept⟩ := skipped_eq_ok_iff.1 found
  obtain ⟨used, same, again⟩ := key.skip_prefix bytes rest skipped
  exact ⟨used, same, fun after => skipped_eq_ok_iff.2 ⟨again after, kept⟩⟩

/-! ## Messages -/

namespace Reader

variable (reader : Reader α)

section
variable {limit : Nat} {message : α}

/-- Fields are read one by one: a key, the payload of its field, and then the others. -/
theorem merge_eq (bytes : Bytes) :
    reader.merge limit message bytes =
      if bytes.length ≤ limit then .ok (message, bytes)
      else
        match Key.decode bytes with
        | .error fault => .error (.ofFault fault)
        | .ok (key, afterKey) =>
          match reader.field message key afterKey with
          | .error error => .error error
          | .ok (next, rest) => reader.merge limit next rest := by
  rw [merge]
  split
  · rfl
  · split
    · rename_i failed
      simp only [failed]
    · rename_i decoded
      simp only [decoded]
      split <;> rename_i read <;> simp only [read]

/-- A message ends where no more bytes are left than its limit. -/
theorem merge_done {bytes : Bytes} (done : bytes.length ≤ limit) :
    reader.merge limit message bytes = .ok (message, bytes) := by
  rw [merge_eq, if_pos done]

/-- A message by itself ends where no bytes are left. -/
theorem merge_nil : reader.merge 0 message [] = .ok (message, []) :=
  reader.merge_done (Nat.le_refl 0)

/-- Fields are read until no more bytes are left than the limit. -/
theorem merge_reaches {merged : α} {bytes rest : Bytes}
    (read : reader.merge limit message bytes = .ok (merged, rest)) : rest.length ≤ limit := by
  fun_induction reader.merge limit message bytes with
  | case1 message bytes done =>
    cases read
    exact done
  | case2 => cases read
  | case3 => cases read
  | case4 message bytes more key afterKey decoded next left found ih => exact ih read

/-- Reading ends at a key that is none. -/
theorem merge_of_fault {bytes : Bytes} (more : ¬bytes.length ≤ limit) {fault : Fault}
    (failed : Key.decode bytes = .error fault) :
    reader.merge limit message bytes = .error (.ofFault fault) := by
  rw [merge_eq, if_neg more, failed]

section
variable {key : Key} {bytes afterKey : Bytes} (decoded : Key.decode bytes = .ok (key, afterKey))
include decoded

/-- Reading ends at a field that cannot be read. -/
theorem merge_of_error (more : ¬bytes.length ≤ limit) {error : DecodeError}
    (failed : reader.field message key afterKey = .error error) :
    reader.merge limit message bytes = .error error := by
  rw [merge_eq, if_neg more, decoded]
  simp only [failed]

/-- A message goes on after a field of its own. -/
theorem merge_field {next : α} {rest : Bytes}
    (read : reader.field message key afterKey = .ok (next, rest)) (inside : limit ≤ rest.length) :
    reader.merge limit message bytes = reader.merge limit next rest := by
  have shorter := Key.decode_length decoded
  have notLonger := reader.field_length read
  rw [merge_eq, if_neg (by omega), decoded]
  simp only [read]

end

end

/-- The fields of a message depend on the bytes that they use only, as far as those bytes are
fewer than a bound. -/
def PrefixBelow (bound : Nat) : Prop :=
  ∀ message key (bytes : Bytes), bytes.length < bound →
    UsesPrefixAt (reader.field message key) bytes

variable {reader} {bound : Nat} (fields : reader.PrefixBelow bound)
include fields

/-- Fields depend on the bytes that they use only, with a limit that leaves the others. -/
theorem merge_prefix {limit : Nat} {message merged : α} {bytes rest : Bytes}
    (short : bytes.length ≤ bound) (read : reader.merge limit message bytes = .ok (merged, rest)) :
    ∃ used, bytes = used ++ rest ∧
      ∀ after, reader.merge after.length message (used ++ after) = .ok (merged, after) := by
  fun_induction reader.merge limit message bytes with
  | case1 message bytes done =>
    cases read
    exact ⟨[], rfl, fun after => reader.merge_done (Nat.le_refl _)⟩
  | case2 => cases read
  | case3 => cases read
  | case4 message bytes more key afterKey decoded next left found ih =>
    have shorter := Key.decode_length decoded
    have notLonger := reader.field_length found
    obtain ⟨first, rfl, begins⟩ := Key.decode_prefix _ _ _ decoded
    obtain ⟨middle, rfl, goes⟩ := fields _ _ _ (by omega) _ _ found
    obtain ⟨used, rfl, again⟩ := ih (by omega) read
    refine ⟨first ++ (middle ++ used), by simp only [List.append_assoc], fun after => ?_⟩
    rw [List.append_assoc, List.append_assoc,
      reader.merge_field (begins _) (goes _) (by rw [List.length_append]; omega), again]

/-- The bytes that the length of a nested message cuts out are a message by themselves. -/
theorem block_of_nested {field : Field} {message merged : α} {key : Key} {bytes rest : Bytes}
    (short : bytes.length ≤ bound)
    (read : reader.nested field message key bytes = .ok (merged, rest)) :
    ∃ block, key.readBlock bytes = .ok (block, rest) ∧
      reader.merge 0 message block = .ok (merged, []) := by
  unfold nested Key.enter at read
  unfold Key.readBlock
  cases expected : key.expect .lengthDelimited with
  | error fault => simp only [expected, reduceCtorEq] at read
  | ok =>
    cases counted : readLength bytes with
    | error fault => simp only [expected, counted, reduceCtorEq] at read
    | ok pair =>
      obtain ⟨length, start⟩ := pair
      have long := readLength_length counted
      simp only [expected, counted] at read
      split at read
      · cases read
      · rename_i found left merges
        split at read
        · rename_i ends
          cases read
          obtain ⟨used, rfl, again⟩ := merge_prefix fields (by omega) merges
          -- The limit is what is left after the length, so the fields used as many bytes.
          have exact : used.length = length := by
            rw [List.length_append] at ends long
            omega
          have whole := again []
          rw [List.append_nil] at whole
          refine ⟨used, ?_, whole⟩
          simp only [List.take_left' exact, List.drop_left' exact]
        · cases read

/-- A message by itself is read as a nested message behind its length. -/
theorem nested_of_block (field : Field) {message merged : α} {key : Key} {bytes block rest : Bytes}
    (short : block.length ≤ bound) (cut : key.readBlock bytes = .ok (block, rest))
    (whole : reader.merge 0 message block = .ok (merged, [])) :
    reader.nested field message key bytes = .ok (merged, rest) := by
  unfold Key.readBlock at cut
  unfold nested Key.enter
  cases expected : key.expect .lengthDelimited with
  | error fault => simp only [expected, reduceCtorEq] at cut
  | ok =>
    cases counted : readLength bytes with
    | error fault => simp only [expected, counted, reduceCtorEq] at cut
    | ok pair =>
      obtain ⟨length, start⟩ := pair
      simp only [expected, counted, Except.ok.injEq, Prod.mk.injEq] at cut
      obtain ⟨rfl, rfl⟩ := cut
      have left : (start.drop length).length = start.length - length := List.length_drop
      obtain ⟨used, same, again⟩ := merge_prefix fields short whole
      rw [List.append_nil] at same
      have merges := again (start.drop length)
      rw [← same, List.take_append_drop, left] at merges
      simp only [merges, left, if_true]

/-- A nested message depends on the bytes that its length counts only. -/
theorem nested_prefix (field : Field) (message : α) (key : Key) {bytes : Bytes}
    (short : bytes.length ≤ bound) : UsesPrefixAt (reader.nested field message key) bytes := by
  intro merged rest read
  obtain ⟨block, cut, whole⟩ := block_of_nested fields short read
  have shorter := Key.readBlock_lengths cut
  obtain ⟨used, rfl, again⟩ := key.readBlock_prefix bytes block rest cut
  exact ⟨used, rfl, fun after => nested_of_block fields field (by omega) (again after) whole⟩

end Reader

namespace Value

theorem plainField_prefix (value : Value) (key : Key) (bytes : Bytes) :
    UsesPrefixAt (value.plainField key) bytes := by
  unfold plainField
  split
  · exact ((key.readNumber_prefix bytes).inField .tag).into _
  · exact ((key.readNumber_prefix bytes).inField .slot).into _
  · exact ((key.readNumber_prefix bytes).inField .slot).into _
  · exact ((key.readBlock_prefix bytes).inField .slot).into _
  · exact skipped_prefix value key bytes

/-- The fields of a value depend on the bytes that they use only, at every depth. -/
theorem reader_prefix (bound : Nat) : reader.PrefixBelow bound := by
  induction bound with
  | zero =>
    intro value key bytes short
    exact absurd short (Nat.not_lt_zero _)
  | succ bound ih =>
    intro value key bytes short
    change UsesPrefixAt (value.field key) bytes
    unfold field
    split
    · simp only [readChild_eq_nested]
      exact (Reader.nested_prefix ih .children {} key (by omega)).into _
    · exact plainField_prefix value key bytes

end Value

theorem Entry.readName_prefix (key : Key) (bytes : Bytes) :
    UsesPrefixAt (Entry.readName key) bytes := by
  intro name rest read
  unfold readName at read
  split at read
  · cases read
  · rename_i block left found
    split at read
    · cases read
    · rename_i text decoded
      cases read
      obtain ⟨used, same, again⟩ := key.readBlock_prefix _ _ _ found
      exact ⟨used, same, fun after => by simp only [readName, again, decoded]⟩

/-- The fields of an entry depend on the bytes that they use only. -/
theorem Entry.reader_prefix (role : Role) (bound : Nat) :
    (Entry.reader role).PrefixBelow bound := by
  intro entry key bytes short
  change UsesPrefixAt (Entry.field role entry key) bytes
  unfold Entry.field
  split
  · exact ((Entry.readName_prefix key bytes).inField _).into _
  · exact (Reader.nested_prefix (Value.reader_prefix bytes.length) _ _ key (Nat.le_refl _)).into _
  · exact skipped_prefix entry key bytes

/-- The fields of a root depend on the bytes that they use only. -/
theorem Root.reader_prefix (bound : Nat) : Root.reader.PrefixBelow bound := by
  intro root key bytes short
  change UsesPrefixAt (root.field key) bytes
  unfold Root.field
  split
  · exact (Reader.nested_prefix (Entry.reader_prefix _ bytes.length) _ _ key (Nat.le_refl _)).into _
  · exact (Reader.nested_prefix (Entry.reader_prefix _ bytes.length) _ _ key (Nat.le_refl _)).into _
  · exact skipped_prefix root key bytes

/-- A root is read from all bytes if its fields are read to the end of them. -/
theorem Root.decode_eq_ok_iff {bytes : Bytes} {root : Root} :
    decode bytes = .ok root ↔ reader.merge 0 {} bytes = .ok (root, []) := by
  unfold decode
  cases read : reader.merge 0 {} bytes with
  | error => simp [Except.map]
  | ok pair =>
    obtain ⟨merged, rest⟩ := pair
    have short := reader.merge_reaches read
    have none : rest = [] := List.eq_nil_of_length_eq_zero (Nat.le_zero.1 short)
    simp [Except.map, none]

end AstView.Wire

import AstView.Error
import AstView.Proofs.Wire.Foreign

/-!
# Where a fault lies

An error names the fields around its fault. Counted from the root inwards they are a path of the
schema (`Root.Path`): a message adds its field to the errors of the message in that field, and no
error has another field than the one that its fault was met in (`Reader.Blames`).

And the path leads to the fault. Bytes that a reader refuses as a message are refused as a part of
any other message, with one more field (`Reader.Refuses.nested`). So the byte of a key that no value
can have, in the place of any value of a root (`Root.encodeAt`), is found at the path to that value.

The text of an error names the fields the other way round, from the fault outwards (`Error.ofPath`).
-/
namespace AstView.Wire

/-! ## Paths of the schema -/

/-- Fields from a value inwards. -/
inductive Value.Path : List Field → Prop where
  /-- The value itself, between its fields. -/
  | here : Path []
  /-- The tag of the value. -/
  | tag : Path [.tag]
  /-- The slot of the value. -/
  | slot : Path [.slot]
  /-- A child of the value, or fields in that child. -/
  | children {path : List Field} (inside : Path path) : Path (.children :: path)

/-- Fields from an entry inwards. -/
inductive Entry.Path (role : Role) : List Field → Prop where
  /-- The entry itself, between its fields. -/
  | here : Path role []
  /-- The name of the entry. -/
  | name : Path role [nameField role]
  /-- The value of the entry, or fields in that value. -/
  | value {path : List Field} (inside : Value.Path path) : Path role (valueField role :: path)

/-- Fields from a root inwards. -/
inductive Root.Path : List Field → Prop where
  /-- The root itself, between its fields. -/
  | here : Path []
  /-- An entry of the root, or fields in that entry. -/
  | entry (role : Role) {path : List Field} (inside : Entry.Path role path) :
    Path (entriesField role :: path)

/-! ## Errors have paths of the schema -/

/-- A fault met in reading a field has that field. -/
theorem inField_eq_error {α : Type} {field : Field} {result : Except Fault α} {error : DecodeError}
    (failed : inField field result = .error error) : error.path = [field] := by
  cases result with
  | ok => cases failed
  | error fault =>
    cases failed
    rfl

/-- Putting what was read into a message leaves an error alone. -/
theorem into_eq_error_iff {α β : Type} {put : α → β} {read : Except DecodeError (α × Bytes)}
    {error : DecodeError} : into put read = .error error ↔ read = .error error := by
  cases read <;> simp [into, Except.map]

/-- A fault met in leaving a payload out has no field. -/
theorem skipped_eq_error {α : Type} {message : α} {key : Key} {bytes : Bytes} {error : DecodeError}
    (failed : (between (key.skip bytes)).map (fun rest => (message, rest)) = .error error) :
    error.path = [] := by
  cases found : key.skip bytes with
  | ok => simp [found, between, Except.map] at failed
  | error fault =>
    rw [found] at failed
    cases failed
    rfl

namespace Reader

variable {α : Type}

/-- The errors of the fields of a message have paths of some kind, from the outermost field inwards,
as far as the payloads are read from fewer bytes than a bound. -/
def Blames (reader : Reader α) (Path : List Field → Prop) (bound : Nat) : Prop :=
  ∀ message key (bytes : Bytes) error, bytes.length < bound →
    reader.field message key bytes = .error error → Path error.path.reverse

variable {reader : Reader α} {Path : List Field → Prop} {bound : Nat}
  (blames : reader.Blames Path bound) (here : Path [])
include blames here

/-- The errors of a message are those of its fields and of what is between them. -/
theorem merge_blames {limit : Nat} {message : α} {bytes : Bytes} {error : DecodeError}
    (short : bytes.length ≤ bound) (failed : reader.merge limit message bytes = .error error) :
    Path error.path.reverse := by
  fun_induction reader.merge limit message bytes with
  | case1 => cases failed
  | case2 =>
    cases failed
    exact here
  | case3 message bytes more key afterKey decoded other found =>
    have shorter := Key.decode_length decoded
    cases failed
    exact blames _ _ _ _ (by omega) found
  | case4 message bytes more key afterKey decoded next left found ih =>
    have shorter := Key.decode_length decoded
    have notLonger := reader.field_length found
    exact ih (by omega) failed

/-- The errors of a nested message have its field and then a path of the message. -/
theorem nested_blames {field : Field} {message : α} {key : Key} {bytes : Bytes}
    {error : DecodeError} (short : bytes.length ≤ bound)
    (failed : reader.nested field message key bytes = .error error) :
    ∃ path, Path path ∧ error.path.reverse = field :: path := by
  unfold nested at failed
  split at failed
  · cases failed
    exact ⟨[], here, rfl⟩
  · rename_i limit start entered
    have shorter := (Key.enter_length entered).1
    split at failed
    · rename_i inner merges
      cases failed
      exact ⟨_, merge_blames blames here (by omega) merges, List.reverse_concat⟩
    · split at failed
      · cases failed
      · cases failed
        exact ⟨[], here, rfl⟩

end Reader

namespace Value

/-- The errors of a field that is no child have that field, if it is one of a value. -/
theorem plainField_blames {value : Value} {key : Key} {bytes : Bytes} {error : DecodeError}
    (failed : value.plainField key bytes = .error error) : Path error.path.reverse := by
  unfold plainField at failed
  split at failed
  · rw [inField_eq_error (into_eq_error_iff.1 failed)]
    exact .tag
  · rw [inField_eq_error (into_eq_error_iff.1 failed)]
    exact .slot
  · rw [inField_eq_error (into_eq_error_iff.1 failed)]
    exact .slot
  · rw [inField_eq_error (into_eq_error_iff.1 failed)]
    exact .slot
  · rw [skipped_eq_error failed]
    exact .here

/-- The errors of the fields of a value have paths of a value, at every depth. -/
theorem reader_blames (bound : Nat) : reader.Blames Path bound := by
  induction bound with
  | zero => exact fun _ _ _ _ short => absurd short (Nat.not_lt_zero _)
  | succ bound ih =>
    intro value key bytes error short failed
    change value.field key bytes = .error error at failed
    unfold field at failed
    split at failed
    · rw [readChild_eq_nested] at failed
      obtain ⟨path, inside, same⟩ :=
        Reader.nested_blames ih .here (by omega) (into_eq_error_iff.1 failed)
      rw [same]
      exact .children inside
    · exact plainField_blames failed

end Value

/-- The errors of the fields of an entry have paths of an entry. -/
theorem Entry.reader_blames (role : Role) (bound : Nat) :
    (reader role).Blames (Path role) bound := by
  intro entry key bytes error short failed
  change Entry.field role entry key bytes = .error error at failed
  unfold field at failed
  split at failed
  · rw [inField_eq_error (into_eq_error_iff.1 failed)]
    exact .name
  · obtain ⟨path, inside, same⟩ := Reader.nested_blames (Value.reader_blames bytes.length) .here
      (Nat.le_refl _) (into_eq_error_iff.1 failed)
    rw [same]
    exact .value inside
  · rw [skipped_eq_error failed]
    exact .here

/-- The errors of the fields of a root have paths of a root. -/
theorem Root.reader_blames (bound : Nat) : reader.Blames Path bound := by
  intro root key bytes error short failed
  change root.field key bytes = .error error at failed
  have nested (role : Role) (inside : (Entry.reader role).nested (entriesField role) {} key bytes =
      .error error) : Path error.path.reverse := by
    obtain ⟨path, inside, same⟩ := Reader.nested_blames (Entry.reader_blames role bytes.length)
      .here (Nat.le_refl _) inside
    rw [same]
    exact .entry role inside
  unfold field at failed
  split at failed
  · exact nested .call (into_eq_error_iff.1 failed)
  · exact nested .stream (into_eq_error_iff.1 failed)
  · rw [skipped_eq_error failed]
    exact .here

/-- The error of bytes that are no root has a path of a root. -/
theorem Root.decode_blames {bytes : Bytes} {error : DecodeError}
    (failed : decode bytes = .error error) : Path error.path.reverse := by
  unfold decode at failed
  cases read : reader.merge 0 {} bytes with
  | ok pair => simp [read, Except.map] at failed
  | error other =>
    rw [read] at failed
    cases failed
    exact Reader.merge_blames (Root.reader_blames bytes.length) .here (Nat.le_refl _) read

/-! ## Bytes in the place of a value -/

namespace Value

/-- The value that some indices of children lead to from a value. -/
def descendant? : List Nat → Value → Option Value
  | [], value => some value
  | index :: path, value => value.children[index]?.bind (descendant? path)

/-- The fields of a value with other bytes in the place of those of a value in it. Where there is no
such value, nothing is replaced. -/
def encodeAt (content : Bytes) : List Nat → Value → Bytes
  | [], _ => content
  | index :: path, ⟨tag, slot, children⟩ =>
    match children[index]? with
    | none => encode ⟨tag, slot, children⟩
    | some child => encodeTag tag ++ (encodeSlot slot ++ (encodeChildren (children.take index) ++
      (blockField 5 (child.encodeAt content path) ++ encodeChildren (children.drop (index + 1)))))

end Value

/-- The fields of an entry with other bytes in the place of those of a value in it. -/
def Entry.encodeAt (content : Bytes) (path : List Nat) (entry : Entry) : Bytes :=
  match entry.value with
  | none => entry.encode
  | some value => encodeName entry.name ++ blockField 2 (value.encodeAt content path)

/-- Entries as fields of their own, with other bytes in the place of those of a value in one of
them. -/
def encodeEntriesAt (content : Bytes) (field index : Nat) (path : List Nat) (entries : List Entry) :
    Bytes :=
  match entries[index]? with
  | none => encodeEntries field entries
  | some entry => encodeEntries field (entries.take index) ++
    (blockField field (entry.encodeAt content path) ++
      encodeEntries field (entries.drop (index + 1)))

namespace Root

/-- The entries of one role. -/
def entries (root : Root) : Role → List Entry
  | .call => root.calls
  | .stream => root.streams

/-- The value at a place in a root: the role and the index of its entry, and the indices that lead
to it from the value of that entry. -/
def valueAt? (root : Root) (role : Role) (index : Nat) (path : List Nat) : Option Value :=
  (root.entries role)[index]?.bind fun entry => entry.value.bind (Value.descendant? path)

/-- The fields of a root with other bytes in the place of those of a value in it. The lengths around
that place are those of the new fields. -/
def encodeAt (root : Root) (content : Bytes) (role : Role) (index : Nat) (path : List Nat) :
    Bytes :=
  match role with
  | .call => encodeEntriesAt content 1 index path root.calls ++ encodeEntries 2 root.streams
  | .stream => encodeEntries 1 root.calls ++ encodeEntriesAt content 2 index path root.streams

end Root

/-! ## Bytes that can be counted -/

mutual

/-- A value whose bytes can be counted is as long as they are. -/
theorem Value.encodedLength_eq (value : Value) (fits : value.encode.length < 2 ^ 64) :
    value.encodedLength = value.encode.length := by
  match value with
  | ⟨tag, slot, children⟩ =>
    simp only [Value.encode, List.length_append] at fits ⊢
    rw [Value.encodedLength, ← length_encodeTag, ← Value.length_encodeSlot_of_length (by omega),
      childrenLength_eq children (by omega)]

/-- Children whose bytes can be counted are as long as they are. -/
theorem childrenLength_eq (children : List Value)
    (fits : (encodeChildren children).length < 2 ^ 64) :
    childrenLength children = (encodeChildren children).length := by
  match children with
  | [] => rfl
  | child :: rest =>
    rw [encodeChildren, List.length_append] at fits ⊢
    have shorter := length_le_lengthField 5 child.encodedLength child.encode
    rw [childrenLength, childrenLength_eq rest (by omega), Value.encodedLength_eq child (by omega),
      length_lengthField (by decide) (by omega)]

end

/-- An entry whose bytes can be counted is as long as they are. -/
theorem Entry.encodedLength_eq (entry : Entry) (fits : entry.encode.length < 2 ^ 64) :
    entry.encodedLength = entry.encode.length := by
  obtain ⟨name, value⟩ := entry
  simp only [encode, encodedLength, List.length_append] at fits ⊢
  have short : (encodeName name).length < 2 ^ 64 := by omega
  rw [← length_encodeName (name_fits_of_length short)]
  cases value with
  | none => rfl
  | some value =>
    have shorter := length_le_lengthField 2 value.encodedLength value.encode
    simp only at fits ⊢
    rw [Value.encodedLength_eq value (by omega), length_lengthField (by decide) (by omega)]

/-- Entries whose bytes can be counted are as long as they are. -/
theorem entriesLength_eq {field : Nat} (named : field < 16) (entries : List Entry)
    (fits : (encodeEntries field entries).length < 2 ^ 64) :
    entriesLength field entries = (encodeEntries field entries).length := by
  induction entries with
  | nil => rfl
  | cons entry rest ih =>
    rw [encodeEntries, List.length_append] at fits ⊢
    have shorter := length_le_lengthField field entry.encodedLength entry.encode
    rw [entriesLength, ih (by omega), Entry.encodedLength_eq entry (by omega),
      length_lengthField named (by omega)]

/-! ## Refused bytes are found -/

namespace Reader

variable {α : Type} {reader : Reader α}

/-- A message that was read up to a limit can be read on to a smaller one. -/
theorem merge_resume {limit pause : Nat} (least : limit ≤ pause) {message merged : α}
    {bytes rest : Bytes} (read : reader.merge pause message bytes = .ok (merged, rest)) :
    reader.merge limit message bytes = reader.merge limit merged rest := by
  fun_induction reader.merge pause message bytes with
  | case1 =>
    cases read
    rfl
  | case2 => cases read
  | case3 => cases read
  | case4 message bytes more key afterKey decoded next left found ih =>
    rw [reader.merge_eq, if_neg (by omega), decoded]
    simp only [found]
    exact ih read

/-- Bytes are refused if a message that begins with them cannot be read, whatever follows it. -/
def Refuses (reader : Reader α) (message : α) (bytes : Bytes) (error : DecodeError) : Prop :=
  ∀ rest : Bytes, reader.merge rest.length message (bytes ++ rest) = .error error

/-- Bytes that are refused are refused as a nested message, in its field. -/
theorem Refuses.nested {message : α} {bytes : Bytes} {error : DecodeError}
    (refused : reader.Refuses message bytes error) (fits : bytes.length < 2 ^ 64)
    (field : Field) (number : Nat) (rest : Bytes) :
    reader.nested field message ⟨number, .lengthDelimited⟩
      (Varint.encode bytes.length ++ (bytes ++ rest)) = .error (error.within field) := by
  have limit : (bytes ++ rest).length - bytes.length = rest.length := by
    rw [List.length_append]
    omega
  simp only [Reader.nested, Key.enter, Key.expect, if_true, readLength_encode fits, limit,
    refused rest]

/-- A message ends at a field whose payload is refused. -/
theorem merge_blockField_error {number : Nat} (known : number ≠ 0 ∧ number < 16) {limit : Nat}
    {message : α} {block rest : Bytes} {error : DecodeError} (inside : limit ≤ rest.length)
    (failed : reader.field message ⟨number, .lengthDelimited⟩
      (Varint.encode block.length ++ (block ++ rest)) = .error error) :
    reader.merge limit message (blockField number block ++ rest) = .error error := by
  have small : Key.code ⟨number, .lengthDelimited⟩ < Key.keyCount :=
    Nat.lt_trans (Key.code_lt known.2) (by decide)
  have decoded := Key.decode_encode known.1 small (Varint.encode block.length ++ (block ++ rest))
  have more := Key.decode_length decoded
  rw [blockField, lengthField_append]
  refine reader.merge_of_error decoded ?_ failed
  simp only [List.length_append] at more ⊢
  omega

end Reader

namespace Value

/-- A field of a value by its number, and how it is laid out. -/
def declared? : Nat → Option (Field × WireType)
  | 1 => some (.tag, .varint)
  | 2 => some (.slot, .varint)
  | 3 => some (.slot, .varint)
  | 4 => some (.slot, .lengthDelimited)
  | 5 => some (.children, .lengthDelimited)
  | _ => none

section
variable {key : Key} {field : Field} {expected : WireType}
  (declared : declared? key.field = some (field, expected)) (other : key.wireType ≠ expected)
include declared other

/-- A field of a value that is laid out in another way is not read. -/
theorem field_mismatch (value : Value) (bytes : Bytes) :
    value.field key bytes = .error ⟨[field], .mismatch key.wireType expected⟩ := by
  have unexpected : key.expect expected = .error (.mismatch key.wireType expected) := if_neg other
  obtain ⟨number, wireType⟩ := key
  simp only at declared
  unfold declared? at declared
  -- One case for each field; its payload begins with a look at the layout.
  split at declared <;> cases declared <;>
    simp only [Value.field, plainField, readChild, Key.readNumber, Key.readBlock, Key.enter,
      unexpected, inField, into, Except.map, Nat.reduceEqDiff, if_true, if_false]

/-- The byte of its key is refused in the field. -/
theorem refuses_key (value : Value) :
    reader.Refuses value [byte key.code] ⟨[field], .mismatch key.wireType expected⟩ := by
  have known : key.field ≠ 0 ∧ key.field < 16 := by
    unfold declared? at declared
    split at declared
    all_goals first | omega | cases declared
  have small := Key.code_lt known.2
  have single : key.encode = [byte key.code] := by
    rw [Key.encode, Varint.encode, if_pos small]
  intro rest
  have decoded := Key.decode_encode known.1 (Nat.lt_trans small (by decide)) rest
  rw [← single]
  refine reader.merge_of_error decoded ?_ (field_mismatch declared other value rest)
  have more := Key.decode_length decoded
  omega

end

/-- Bytes that are refused are refused as a child, whatever stands before and behind it. -/
theorem refuses_child {tag : Int32} {slot : Option Slot} {earlier : List Value}
    {block later : Bytes} {error : DecodeError} (refused : reader.Refuses {} block error)
    (fits : (encodeTag tag ++ (encodeSlot slot ++ (encodeChildren earlier ++
      (blockField 5 block ++ later)))).length < 2 ^ 64) :
    reader.Refuses {} (encodeTag tag ++ (encodeSlot slot ++ (encodeChildren earlier ++
      (blockField 5 block ++ later)))) (error.within .children) := by
  simp only [List.length_append] at fits
  have shorter := length_le_blockField 5 block
  have children := childrenLength_eq earlier (by omega)
  have slotExact := length_encodeSlot_of_length (by omega : (encodeSlot slot).length < 2 ^ 64)
  intro rest
  have behind : rest.length ≤ (later ++ rest).length := by
    rw [List.length_append]
    omega
  have long (bytes : Bytes) :
      rest.length ≤ (bytes ++ (blockField 5 block ++ (later ++ rest))).length := by
    simp only [List.length_append]
    omega
  -- The earlier children are read up to the block, which is as far as their lemma goes; the value
  -- itself has the smaller limit behind it.
  have before := merge_encodeChildren earlier (by omega) ⟨tag, slot, []⟩
    (blockField 5 block ++ (later ++ rest))
  have start := long (encodeSlot slot ++ encodeChildren earlier)
  rw [List.append_assoc] at start
  simp only [List.append_assoc]
  rw [merge_encodeTag start, merge_encodeSlot (long _) tag slot (by omega),
    Reader.merge_resume (long []) before]
  refine Reader.merge_blockField_error (by decide) behind ?_
  rw [show reader.field = Value.field from rfl, Value.field, if_pos rfl, readChild_eq_nested,
    refused.nested (by omega) .children 5]
  rfl

/-- Bytes that are refused are refused in the place of a value at any depth, with as many fields of
children around as there are indices. -/
theorem refuses_encodeAt {content : Bytes} {error : DecodeError}
    (refused : reader.Refuses {} content error) (path : List Nat) {value inner : Value}
    (found : value.descendant? path = some inner)
    (fits : (value.encodeAt content path).length < 2 ^ 64) :
    reader.Refuses {} (value.encodeAt content path)
      ⟨error.path ++ List.replicate path.length .children, error.fault⟩ := by
  induction path generalizing value with
  | nil =>
    rw [List.length_nil, List.replicate_zero, List.append_nil]
    exact refused
  | cons index path ih =>
    obtain ⟨tag, slot, children⟩ := value
    obtain ⟨child, member, below⟩ := Option.bind_eq_some_iff.1 found
    simp only at member
    simp only [encodeAt, member] at fits ⊢
    have shorter := length_le_blockField 5 (child.encodeAt content path)
    have behind := ih below (by simp only [List.length_append] at fits; omega)
    have whole := refuses_child behind fits
    rw [DecodeError.within, List.append_assoc, ← List.replicate_succ'] at whole
    exact whole

end Value

section
variable {content : Bytes} {error : DecodeError} (refused : Value.reader.Refuses {} content error)
  {path : List Nat} {value : Value}
include refused

/-- Bytes that are refused are refused in the place of a value of an entry. -/
theorem Entry.refuses_encodeAt (role : Role) {entry : Entry}
    (found : entry.value.bind (Value.descendant? path) = some value)
    (fits : (entry.encodeAt content path).length < 2 ^ 64) :
    (reader role).Refuses {} (entry.encodeAt content path)
      ⟨error.path ++ List.replicate path.length .children ++ [valueField role], error.fault⟩ := by
  obtain ⟨name, _⟩ := entry
  obtain ⟨top, rfl, below⟩ := Option.bind_eq_some_iff.1 found
  intro rest
  simp only [encodeAt, List.length_append] at fits ⊢
  have shorter := length_le_blockField 2 (top.encodeAt content path)
  have inside := Value.refuses_encodeAt refused path below (by omega)
  have named := name_fits_of_length (by omega : (encodeName name).length < 2 ^ 64)
  rw [List.append_assoc, merge_encodeName role (by simp only [List.length_append]; omega) named]
  refine Reader.merge_blockField_error (by decide) (Nat.le_refl _) ?_
  simp only [reader, Entry.field, Option.getD_none, inside.nested (by omega), into, Except.map,
    DecodeError.within]

/-- Bytes that are refused are refused in the place of a value of one of some entries. -/
theorem Root.merge_encodeEntriesAt (role : Role) {index : Nat} {entries : List Entry}
    (found : (entries[index]?.bind fun entry => entry.value.bind (Value.descendant? path)) =
      some value)
    (fits : (encodeEntriesAt content (entriesNumber role) index path entries).length < 2 ^ 64)
    (root : Root) (rest : Bytes) :
    reader.merge 0 root (encodeEntriesAt content (entriesNumber role) index path entries ++ rest) =
      .error ⟨error.path ++ List.replicate path.length .children ++
        [Entry.valueField role, entriesField role], error.fault⟩ := by
  have known := entriesNumber_known role
  obtain ⟨entry, member, below⟩ := Option.bind_eq_some_iff.1 found
  simp only [encodeEntriesAt, member, List.length_append] at fits ⊢
  have shorter := length_le_blockField (entriesNumber role) (entry.encodeAt content path)
  have inside := Entry.refuses_encodeAt refused role below (by omega)
  have earlier := entriesLength_eq known.2 (entries.take index) (by omega)
  simp only [List.append_assoc]
  rw [merge_encodeEntries role (entries.take index) (by omega)]
  refine Reader.merge_blockField_error known (Nat.zero_le _) ?_
  simp only [field_entries, inside.nested (by omega), into, Except.map, DecodeError.within,
    List.append_assoc, List.cons_append, List.nil_append]

/-- Bytes that are refused are refused in the place of a value of a root. -/
theorem Root.decode_encodeAt {root : Root} {role : Role} {index : Nat}
    (found : root.valueAt? role index path = some value)
    (fits : (root.encodeAt content role index path).length < 2 ^ 64) :
    decode (root.encodeAt content role index path) =
      .error ⟨error.path ++ List.replicate path.length .children ++
        [Entry.valueField role, entriesField role], error.fault⟩ := by
  rw [valueAt?] at found
  cases role with
  | call =>
    rw [entries] at found
    simp only [encodeAt, List.length_append] at fits ⊢
    have failed := merge_encodeEntriesAt refused .call found (by simp only [entriesNumber]; omega)
      {} (encodeEntries 2 root.streams)
    simp only [entriesNumber] at failed
    rw [decode, failed]
    rfl
  | stream =>
    rw [entries] at found
    simp only [encodeAt, List.length_append] at fits ⊢
    have exactCalls := entriesLength_eq (by decide : 1 < 16) root.calls (by omega)
    have calls := merge_encodeEntries .call root.calls (by simp only [entriesNumber]; omega) {}
      (encodeEntriesAt content 2 index path root.streams)
    have failed := merge_encodeEntriesAt refused .stream found (by simp only [entriesNumber]; omega)
      (({} : Root).add .call root.calls) []
    simp only [entriesNumber, List.append_nil] at calls failed
    rw [decode, calls, failed]
    rfl

end

/-! ## A value in its own place -/

theorem encodeChildren_append (first second : List Value) :
    encodeChildren (first ++ second) = encodeChildren first ++ encodeChildren second := by
  induction first with
  | nil => rfl
  | cons child rest ih =>
    rw [List.cons_append, encodeChildren, encodeChildren, ih, List.append_assoc]

theorem encodeEntries_append (field : Nat) (first second : List Entry) :
    encodeEntries field (first ++ second) =
      encodeEntries field first ++ encodeEntries field second := by
  induction first with
  | nil => rfl
  | cons entry rest ih =>
    rw [List.cons_append, encodeEntries, encodeEntries, ih, List.append_assoc]

/-- A list is what is before an element of it, the element and what is behind it. -/
theorem take_cons_drop {α : Type} {list : List α} {index : Nat} {element : α}
    (member : list[index]? = some element) :
    list.take index ++ element :: list.drop (index + 1) = list := by
  obtain ⟨inside, rfl⟩ := List.getElem?_eq_some_iff.1 member
  rw [List.getElem_cons_drop, List.take_append_drop]

/-- A value has its own bytes with those of a value in it in their place. -/
theorem Value.encodeAt_encode (path : List Nat) {value inner : Value}
    (found : value.descendant? path = some inner) (fits : value.encode.length < 2 ^ 64) :
    value.encodeAt inner.encode path = value.encode := by
  induction path generalizing value with
  | nil =>
    cases found
    rfl
  | cons index path ih =>
    obtain ⟨tag, slot, children⟩ := value
    obtain ⟨child, member, below⟩ := Option.bind_eq_some_iff.1 found
    simp only at member
    have split := encodeChildren_append (children.take index) (child :: children.drop (index + 1))
    rw [take_cons_drop member, encodeChildren] at split
    simp only [encodeAt, member, encode, split, List.length_append] at fits ⊢
    have shorter := length_le_lengthField 5 child.encodedLength child.encode
    rw [ih below (by omega), blockField, encodedLength_eq child (by omega), List.append_assoc]

theorem Entry.encodeAt_encode {path : List Nat} {entry : Entry} {value : Value}
    (found : entry.value.bind (Value.descendant? path) = some value)
    (fits : entry.encode.length < 2 ^ 64) :
    entry.encodeAt value.encode path = entry.encode := by
  obtain ⟨name, _⟩ := entry
  obtain ⟨top, rfl, below⟩ := Option.bind_eq_some_iff.1 found
  simp only [encode, encodeAt, List.length_append] at fits ⊢
  have shorter := length_le_lengthField 2 top.encodedLength top.encode
  rw [top.encodeAt_encode path below (by omega), blockField, top.encodedLength_eq (by omega)]

theorem encodeEntriesAt_encode {field index : Nat} {path : List Nat} {entries : List Entry}
    {value : Value}
    (found : (entries[index]?.bind fun entry => entry.value.bind (Value.descendant? path)) =
      some value) (fits : (encodeEntries field entries).length < 2 ^ 64) :
    encodeEntriesAt value.encode field index path entries = encodeEntries field entries := by
  obtain ⟨entry, member, below⟩ := Option.bind_eq_some_iff.1 found
  have split := encodeEntries_append field (entries.take index) (entry :: entries.drop (index + 1))
  rw [take_cons_drop member, encodeEntries] at split
  simp only [encodeEntriesAt, member, split, List.length_append] at fits ⊢
  have shorter := length_le_lengthField field entry.encodedLength entry.encode
  rw [entry.encodeAt_encode below (by omega), blockField, entry.encodedLength_eq (by omega)]

/-- A root has its own bytes with those of a value in it in their place. -/
theorem Root.encodeAt_encode {root : Root} {role : Role} {index : Nat} {path : List Nat}
    {value : Value} (found : root.valueAt? role index path = some value)
    (fits : root.encode.length < 2 ^ 64) :
    root.encodeAt value.encode role index path = root.encode := by
  simp only [encode, List.length_append] at fits
  rw [valueAt?] at found
  cases role with
  | call =>
    rw [entries] at found
    rw [encodeAt, encode, encodeEntriesAt_encode found (by omega)]
  | stream =>
    rw [entries] at found
    rw [encodeAt, encode, encodeEntriesAt_encode found (by omega)]

end AstView.Wire

namespace AstView

open Wire

/-- The error that names the last of some fields, each of them in the one before it, as the place of
a fault. Its text names the fields from the last one to the first and then the fault. -/
def Error.ofPath (path : List Field) (fault : Fault) : Error :=
  .deserialization ("failed to decode Protobuf message: " ++
    String.join (path.reverse.map fun field => field.text ++ ": ") ++ fault.message)

namespace Document

/-- A call whose name is no text. -/
def namelessCall : Bytes := [0x0a, 0x03, 0x0a, 0x01, 0xff]

/-- The fault of that call lies in its name. -/
theorem load_namelessCall : load namelessCall = .error ⟨[.callName, .calls], .text⟩ := by
  have nameKey : Key.decode [0x0a, 0x01, 0xff] = .ok (⟨1, .lengthDelimited⟩, [0x01, 0xff]) := by
    decide
  have name : (Wire.Entry.reader .call).field {} ⟨1, .lengthDelimited⟩ [0x01, 0xff] =
      .error ⟨[.callName], .text⟩ := by
    change Wire.Entry.field .call {} ⟨1, .lengthDelimited⟩ [0x01, 0xff] = _
    cbv
  have call := Reader.merge_of_error _ nameKey (by decide : ¬3 ≤ 0) name
  have callKey : Key.decode namelessCall = .ok (⟨1, .lengthDelimited⟩, namelessCall.tail) := by
    decide
  have enter : Key.enter ⟨1, .lengthDelimited⟩ namelessCall.tail = .ok (0, [0x0a, 0x01, 0xff]) := by
    decide
  have root : Root.reader.field {} ⟨1, .lengthDelimited⟩ namelessCall.tail =
      .error ⟨[.callName, .calls], .text⟩ := by
    simp only [Root.reader, Root.field, Reader.nested, enter, call]
    rfl
  rw [load, Root.decode, Reader.merge_of_error _ callKey (by decide) root]
  rfl

/-- The error of bytes that are no document names a path of the schema, in its text from the fault
outwards. And the path is that of the fault. A root has its own bytes if those of any value in it
are put in the place of that value. If the byte of a key is put there, the key of a field of values
with another layout than that of the field, the error names the path to that value and then the
field. -/
theorem load_names_path :
    (∀ bytes error, (load bytes).mapError Error.ofDecodeError = .error error →
      ∃ path fault, Root.Path path ∧ error = .ofPath path fault) ∧
    ∀ (root : Root) (role : Role) (index : Nat) (path : List Nat) (value : Value),
      root.valueAt? role index path = some value →
      (root.encode.length < 2 ^ 64 →
        root.encodeAt value.encode role index path = root.encode) ∧
      ∀ (key : Key) (field : Field) (expected : WireType),
        Value.declared? key.field = some (field, expected) → key.wireType ≠ expected →
        (root.encodeAt [byte key.code] role index path).length < 2 ^ 64 →
        (load (root.encodeAt [byte key.code] role index path)).mapError Error.ofDecodeError =
          .error (.ofPath
            (Root.entriesField role :: Entry.valueField role ::
              (List.replicate path.length .children ++ [field]))
            (.mismatch key.wireType expected)) := by
  refine ⟨?_, ?_⟩
  · intro bytes error failed
    unfold load at failed
    cases read : Root.decode bytes with
    | ok root => simp [read, Except.map, Except.mapError] at failed
    | error other =>
      rw [read] at failed
      cases failed
      refine ⟨other.path.reverse, other.fault, Root.decode_blames read, ?_⟩
      rw [Error.ofPath, List.reverse_reverse]
      rfl
  · intro root role index path value found
    refine ⟨Root.encodeAt_encode found, ?_⟩
    intro key field expected declared other fits
    have refused := Value.refuses_key declared other {}
    have inwards : [field] ++ List.replicate path.length .children ++
        [Entry.valueField role, Root.entriesField role] =
        (Root.entriesField role :: Entry.valueField role ::
          (List.replicate path.length .children ++ [field])).reverse := by
      simp only [List.reverse_cons, List.reverse_append, List.reverse_replicate, List.reverse_nil,
        List.nil_append, List.append_assoc, List.cons_append]
    rw [load, Root.decode_encodeAt refused found fits, inwards]
    rfl

theorem load_names_path_mixedRoot :
    (∃ path fault, Root.Path path ∧
      Error.ofDecodeError ⟨[.callName, .calls], .text⟩ = .ofPath path fault) ∧
    mixedRoot.valueAt? .call 0 [1] = some ⟨16, some (.unsigned 300), []⟩ ∧
    mixedRoot.encodeAt (Value.encode ⟨16, some (.unsigned 300), []⟩) .call 0 [1] =
      mixedRoot.encode ∧
    (load (mixedRoot.encodeAt [0x28] .call 0 [1])).mapError Error.ofDecodeError =
      .error (.deserialization ("failed to decode Protobuf message: Value.children: " ++
        "Value.children: Call.result: Root.calls: " ++
        "invalid wire type: Varint (expected LengthDelimited)")) := by
  obtain ⟨refused, replaced⟩ := load_names_path
  have found : mixedRoot.valueAt? .call 0 [1] = some ⟨16, some (.unsigned 300), []⟩ := rfl
  obtain ⟨own, other⟩ := replaced _ _ _ _ _ found
  refine ⟨refused namelessCall _ ?_, found, own (by decide +kernel), ?_⟩
  · rw [load_namelessCall]
    rfl
  · exact other ⟨5, .varint⟩ .children .lengthDelimited rfl (by decide) (by decide +kernel)

/-- The text of an error does not name the fields of a path from the root inwards. -/
theorem text_names_fault_first :
    load namelessCall = .error ⟨[.callName, .calls], .text⟩ ∧
    ∀ path, Root.Path path →
      DecodeError.message ⟨[.callName, .calls], .text⟩ ≠ "failed to decode Protobuf message: " ++
        String.join (path.map fun field => field.text ++ ": ") ++ Fault.message .text := by
  refine ⟨load_namelessCall, ?_⟩
  intro path named same
  change _ ++ String.join ["Call.name: ", "Root.calls: "] ++ Fault.message .text = _ at same
  rw [String.append_left_inj, String.append_right_inj] at same
  have first := congrArg (fun text => text.toList.head?) same
  cases named with
  | here => cases first
  | entry role inside =>
    rw [List.map_cons, String.join_cons] at first
    cases role <;> simp [Root.entriesField, Field.text] at first

end Document

end AstView

import AstView.Error
import AstView.Proofs.Wire.Acceptance
import AstView.Proofs.Wire.Concatenation

/-!
# Files cut short

The front of a file that is loaded is loaded if and only if it ends where a field of the root ends,
and then as the first entries of the file. A field is what the grammar of `Wire.Slice` takes for
one, at the level of the root: a key with its payload, or a group from its start to its end.

A field depends on its own bytes only (`first_field`), so the fields of bytes in a row are those of
the first and then those of the second (`fields_append`). If the front and the whole are rows of
fields, what is missing is one as well, and the front ends between two fields. Of an encoded root
the fields are its entries.
-/
namespace AstView.Wire.Slice

/-! ## What a field depends on -/

theorem number_prefix {value : Nat} {bytes rest : Bytes}
    (read : number bytes = some (value, rest)) :
    ∃ used, bytes = used ++ rest ∧ ∀ after, number (used ++ after) = some (value, after) := by
  simp only [number_eq] at read ⊢
  exact decodeAt_prefix read

theorem cut_prefix {count : Nat} {block bytes rest : Bytes}
    (taken : cut count bytes = some (block, rest)) :
    bytes = block ++ rest ∧ ∀ after, cut count (block ++ after) = some (block, after) := by
  unfold cut at taken
  split at taken
  · rename_i enough
    cases taken
    have exact : (bytes.take count).length = count := by
      rw [List.length_take]
      omega
    refine ⟨(List.take_append_drop count bytes).symm, fun after => ?_⟩
    have more : count ≤ (bytes.take count ++ after).length := by
      rw [List.length_append]
      omega
    rw [cut, if_pos more, List.take_left' exact, List.drop_left' exact]
  · cases taken

theorem payload_prefix {wireType : WireType} {part : Payload} {bytes rest : Bytes}
    (read : payload wireType bytes = some (part, rest)) :
    ∃ used, bytes = used ++ rest ∧
      ∀ after, payload wireType (used ++ after) = some (part, after) := by
  cases wireType <;> simp only [payload, Option.bind_eq_bind, Option.bind_eq_some_iff,
    Option.pure_def, Option.some.injEq, Prod.mk.injEq, Prod.exists] at read ⊢
  case varint =>
    obtain ⟨value, left, found, rfl, rfl⟩ := read
    obtain ⟨used, rfl, again⟩ := number_prefix found
    exact ⟨used, rfl, fun after => ⟨value, after, again after, rfl, rfl⟩⟩
  case lengthDelimited =>
    obtain ⟨length, start, found, block, left, taken, rfl, rfl⟩ := read
    obtain ⟨used, rfl, counts⟩ := number_prefix found
    obtain ⟨rfl, again⟩ := cut_prefix taken
    refine ⟨used ++ block, (List.append_assoc _ _ _).symm, fun after => ?_⟩
    rw [List.append_assoc]
    exact ⟨length, block ++ after, counts _, block, after, again after, rfl, rfl⟩
  case startGroup =>
    obtain ⟨rfl, rfl⟩ := read
    exact ⟨[], rfl, fun after => ⟨rfl, rfl⟩⟩
  case endGroup =>
    obtain ⟨rfl, rfl⟩ := read
    exact ⟨[], rfl, fun after => ⟨rfl, rfl⟩⟩
  all_goals
    obtain ⟨word, left, taken, rfl, rfl⟩ := read
    obtain ⟨rfl, again⟩ := cut_prefix taken
    exact ⟨word, rfl, fun after => ⟨word, after, again after, rfl, rfl⟩⟩

theorem record_prefix {one : Record} {bytes rest : Bytes}
    (read : record bytes = some (one, rest)) :
    ∃ used, bytes = used ++ rest ∧ ∀ after, record (used ++ after) = some (one, after) := by
  obtain ⟨key, start, decoded, named, taken⟩ := record_eq_some_iff.1 read
  obtain ⟨front, rfl, begins⟩ := Key.decode_prefix _ _ _ decoded
  obtain ⟨used, rfl, again⟩ := payload_prefix taken
  refine ⟨front ++ used, (List.append_assoc _ _ _).symm, fun after => ?_⟩
  rw [List.append_assoc]
  exact record_eq_some_iff.2 ⟨key, used ++ after, begins _, named, again after⟩

theorem leaves_prefix {one : Record} {middle rest : Bytes} (leaves : Leaves one middle rest) :
    ∃ used, middle = used ++ rest ∧ ∀ after, Leaves one (used ++ after) after := by
  obtain ⟨field, part⟩ := one
  cases part with
  | opening => exact skipGroup_prefix field [] middle rest leaves
  | closing => exact leaves.elim
  | _ => exact ⟨[], leaves, fun after => rfl⟩

/-- A record leaves the rest of a message in one way only. -/
theorem leaves_unique {one : Record} {middle rest other : Bytes} (leaves : Leaves one middle rest)
    (again : Leaves one middle other) : rest = other := by
  obtain ⟨field, part⟩ := one
  cases part with
  | opening => exact Except.ok.inj (leaves.symm.trans again)
  | closing => exact leaves.elim
  | _ => exact leaves.symm.trans again

/-- The first field of a message uses some bytes, and in front of any others it uses the same. -/
theorem first_field {one : Record} {others : List Record} {bytes : Bytes}
    (read : fields bytes = some (one :: others)) :
    ∃ part rest, bytes = part ++ rest ∧ fields rest = some others ∧
      ∀ after, fields (part ++ after) = (fields after).map (one :: ·) := by
  have more : bytes ≠ [] := by
    rintro rfl
    rw [fields_nil] at read
    cases read
  obtain ⟨_, middle, rest, _, first, leaves, split, same⟩ := (fields_eq_some_iff more).1 read
  cases same
  obtain ⟨front, rfl, begins⟩ := record_prefix first
  obtain ⟨used, rfl, again⟩ := leaves_prefix leaves
  refine ⟨front ++ used, rest, (List.append_assoc _ _ _).symm, split, fun after => ?_⟩
  rw [List.append_assoc]
  apply Option.ext
  intro found
  rw [fields_of_record (begins (used ++ after)), Option.map_eq_some_iff]
  constructor
  · rintro ⟨left, leaves, later, inner, rfl⟩
    have same : after = left := leaves_unique (again after) leaves
    subst same
    exact ⟨later, inner, rfl⟩
  · rintro ⟨later, inner, rfl⟩
    exact ⟨after, again after, later, inner, rfl⟩

/-- Only no bytes have no fields. -/
theorem eq_nil_of_fields {bytes : Bytes} (none : fields bytes = some []) : bytes = [] := by
  by_contra more
  obtain ⟨_, _, _, _, _, _, _, same⟩ := (fields_eq_some_iff more).1 none
  cases same

/-- The fields of bytes in a row are those of the first and then those of the second. -/
theorem fields_append {first : Bytes} {found : List Record} (read : fields first = some found)
    (second : Bytes) : fields (first ++ second) = (fields second).map (found ++ ·) := by
  induction found generalizing first with
  | nil =>
    rw [eq_nil_of_fields read]
    exact Option.map_id'.symm
  | cons one others ih =>
    obtain ⟨part, rest, rfl, inner, again⟩ := first_field read
    rw [List.append_assoc, again, ih inner, Option.map_map]
    rfl

/-! ## Boundaries -/

/-- Bytes that are one field. -/
def IsField (part : Bytes) : Prop := ∃ one, fields part = some [one]

/-- The front of a message ends between two of its fields: it is the first of the fields that the
message is a row of. -/
def Boundary (whole front : Bytes) : Prop :=
  ∃ before after : List Bytes, (∀ part ∈ before ++ after, IsField part) ∧
    before.flatten = front ∧ (before ++ after).flatten = whole

/-- Bytes with fields are a row of them. -/
theorem row_of_fields {bytes : Bytes} {found : List Record} (read : fields bytes = some found) :
    ∃ parts : List Bytes, (∀ part ∈ parts, IsField part) ∧ parts.flatten = bytes := by
  induction found generalizing bytes with
  | nil => exact ⟨[], by simp, (eq_nil_of_fields read).symm⟩
  | cons one others ih =>
    obtain ⟨part, rest, rfl, inner, again⟩ := first_field read
    obtain ⟨parts, single, rfl⟩ := ih inner
    have own : fields part = some [one] := by
      have alone := again []
      rw [List.append_nil, fields_nil] at alone
      exact alone
    refine ⟨part :: parts, ?_, rfl⟩
    rintro other (_ | ⟨_, inside⟩)
    · exact ⟨one, own⟩
    · exact single other inside

/-- A row of fields has fields. -/
theorem fields_of_row {parts : List Bytes} (single : ∀ part ∈ parts, IsField part) :
    ∃ found, fields parts.flatten = some found := by
  induction parts with
  | nil => exact ⟨[], fields_nil⟩
  | cons part rest ih =>
    obtain ⟨one, own⟩ := single part List.mem_cons_self
    obtain ⟨others, inner⟩ := ih fun other inside => single other (List.mem_cons_of_mem _ inside)
    refine ⟨one :: others, ?_⟩
    rw [List.flatten_cons, fields_append own, inner]
    rfl

/-- Two fronts of a message with the same fields are the same. -/
theorem front_unique {whole front other : Bytes} {found : List Record} (begins : front <+: whole)
    (otherBegins : other <+: whole) (read : fields front = some found)
    (otherRead : fields other = some found) : front = other := by
  -- What the longer of the two has more than the shorter has no fields, so it is nothing.
  have shorter {front other : Bytes} (prefixed : front <+: other)
      (read : fields front = some found) (otherRead : fields other = some found) :
      front = other := by
    obtain ⟨more, rfl⟩ := prefixed
    rw [fields_append read, Option.map_eq_some_iff] at otherRead
    obtain ⟨later, inner, same⟩ := otherRead
    have none : later = [] := List.append_right_eq_self.1 same
    rw [none] at inner
    rw [eq_nil_of_fields inner, List.append_nil]
  obtain sooner | later := List.prefix_or_prefix_of_prefix begins otherBegins
  · exact shorter sooner read otherRead
  · exact (shorter later otherRead read).symm

/-- A field takes some bytes. -/
theorem IsField.ne_nil {part : Bytes} (single : IsField part) : part ≠ [] := by
  rintro rfl
  obtain ⟨one, own⟩ := single
  rw [fields_nil] at own
  cases own

/-- Bytes are a row of fields in one way only. -/
theorem row_unique {parts others : List Bytes} (single : ∀ part ∈ parts, IsField part)
    (otherSingle : ∀ part ∈ others, IsField part) (same : parts.flatten = others.flatten) :
    parts = others := by
  induction parts generalizing others with
  | nil =>
    cases others with
    | nil => rfl
    | cons other more =>
      have none : other = [] := (List.append_eq_nil_iff.1 same.symm).1
      exact absurd none (otherSingle other List.mem_cons_self).ne_nil
  | cons part rest ih =>
    cases others with
    | nil =>
      have none : part = [] := (List.append_eq_nil_iff.1 same).1
      exact absurd none (single part List.mem_cons_self).ne_nil
    | cons other more =>
      have later := fun part inside => single part (List.mem_cons_of_mem _ inside)
      have otherLater := fun part inside => otherSingle part (List.mem_cons_of_mem _ inside)
      obtain ⟨one, own⟩ := single part List.mem_cons_self
      obtain ⟨otherOne, otherOwn⟩ := otherSingle other List.mem_cons_self
      obtain ⟨found, inner⟩ := fields_of_row later
      obtain ⟨otherFound, otherInner⟩ := fields_of_row otherLater
      rw [List.flatten_cons, List.flatten_cons] at same
      -- Both have the first field of the same bytes.
      have first := fields_append own rest.flatten
      have otherFirst := fields_append otherOwn more.flatten
      rw [inner] at first
      rw [otherInner, ← same, first] at otherFirst
      cases otherFirst
      have head : part = other := by
        apply front_unique (List.prefix_append part rest.flatten) _ own otherOwn
        rw [same]
        exact List.prefix_append other more.flatten
      subst head
      rw [ih later otherLater (List.append_cancel_left same)]

/-- A row of fields ends between two of them after each number of them, and nowhere else. -/
theorem boundary_iff_take {parts : List Bytes} (single : ∀ part ∈ parts, IsField part)
    {front : Bytes} :
    Boundary parts.flatten front ↔ ∃ count, front = (parts.take count).flatten := by
  constructor
  · rintro ⟨before, after, both, rfl, whole⟩
    refine ⟨before.length, ?_⟩
    rw [← row_unique both single whole, List.take_left]
  · rintro ⟨count, rfl⟩
    have whole : parts.take count ++ parts.drop count = parts := List.take_append_drop count parts
    refine ⟨parts.take count, parts.drop count, ?_, rfl, by rw [whole]⟩
    rw [whole]
    exact single

/-- Bytes with fields end between two fields after each front that has fields. -/
theorem boundary_of_fields {front rest : Bytes} {found : List Record}
    (read : fields front = some found) {all : List Record}
    (whole : fields (front ++ rest) = some all) : Boundary (front ++ rest) front := by
  rw [fields_append read, Option.map_eq_some_iff] at whole
  obtain ⟨others, inner, -⟩ := whole
  obtain ⟨before, early, rfl⟩ := row_of_fields read
  obtain ⟨after, late, rfl⟩ := row_of_fields inner
  refine ⟨before, after, ?_, rfl, List.flatten_append⟩
  intro part inside
  exact (List.mem_append.1 inside).elim (early part) (late part)

/-- A root is read from its records, which are the fields of its bytes. -/
theorem fields_of_decode {bytes : Bytes} {root : Root} (decoded : Root.decode bytes = .ok root) :
    ∃ found, fields bytes = some found ∧ found.foldlM rootStep {} = some root := by
  have read := decode_eq_ok_iff_readRoot.1 decoded
  simp only [readRoot, Option.bind_eq_bind, Option.bind_eq_some_iff] at read
  exact read

/-- The front of bytes that are loaded is loaded if and only if it ends between two fields. -/
theorem load_front_iff {front rest : Bytes} {document : Document}
    (accepted : Document.load (front ++ rest) = .ok document) :
    (∃ kept, Document.load front = .ok kept) ↔ Boundary (front ++ rest) front := by
  obtain ⟨root, decoded, -⟩ := Document.load_eq_ok_iff.1 accepted
  obtain ⟨all, whole, folded⟩ := fields_of_decode decoded
  constructor
  · rintro ⟨kept, loaded⟩
    obtain ⟨keptRoot, keptDecoded, -⟩ := Document.load_eq_ok_iff.1 loaded
    obtain ⟨found, read, -⟩ := fields_of_decode keptDecoded
    exact boundary_of_fields read whole
  · rintro ⟨before, after, both, rfl, same⟩
    have early := fun part inside => both part (List.mem_append_left after inside)
    obtain ⟨found, read⟩ := fields_of_row early
    rw [fields_append read, Option.map_eq_some_iff] at whole
    obtain ⟨others, -, rfl⟩ := whole
    rw [List.foldlM_append, Option.bind_eq_bind, Option.bind_eq_some_iff] at folded
    obtain ⟨keptRoot, taken, -⟩ := folded
    have keptRead : readRoot before.flatten = some keptRoot := by
      rw [readRoot, read]
      exact taken
    refine ⟨.ofWire keptRoot, Document.load_eq_ok_iff.2 ⟨keptRoot, ?_, rfl⟩⟩
    exact decode_eq_ok_iff_readRoot.2 keptRead

/-! ## Encoded roots -/

/-- The entry of a role is a field of its own. -/
theorem isField_entryField (role : Role) {entry : Entry} (fits : entry.encodedLength < 2 ^ 64) :
    IsField (Root.entryField role entry) := by
  let key : Key := ⟨Root.entriesNumber role, .lengthDelimited⟩
  have known : key.field ≠ 0 ∧ key.code < Key.keyCount := by
    cases role <;> decide
  have exact := Entry.length_encode entry fits
  have cutOut := @Key.readBlock_encode key.field entry.encode (by omega) []
  obtain ⟨part, taken, same⟩ := readBlock_eq_ok_iff.1 cutOut
  have parts : Root.entryField role entry =
      key.encode ++ (Varint.encode entry.encode.length ++ (entry.encode ++ [])) := by
    rw [← lengthField_append, List.append_nil, exact]
    rfl
  have first : record (Root.entryField role entry) = some (⟨key.field, part⟩, []) := by
    rw [parts]
    exact record_eq_some_iff.2 ⟨key, _, Key.decode_encode known.1 known.2 _, rfl, taken⟩
  have leaves : Leaves ⟨key.field, part⟩ [] [] := by
    cases part with
    | block => rfl
    | _ => cases same
  exact ⟨_, (fields_of_record first).2 ⟨[], leaves, [], fields_nil, rfl⟩⟩

end AstView.Wire.Slice

namespace AstView.Wire.Root

/-- The fields of the entries of a root, calls before streams. -/
def entryFields (root : Root) : List Bytes :=
  root.calls.map (entryField .call) ++ root.streams.map (entryField .stream)

/-- The first entries of a root, calls before streams. -/
def keep (root : Root) (count : Nat) : Root :=
  ⟨root.calls.take count, root.streams.take (count - root.calls.length)⟩

theorem flatten_entryField (role : Role) (entries : List Entry) :
    (entries.map (entryField role)).flatten = encodeEntries (entriesNumber role) entries := by
  induction entries with
  | nil => rfl
  | cons entry rest ih =>
    rw [List.map_cons, List.flatten_cons, ih]
    rfl

/-- A root is written as the fields of its entries. -/
theorem encode_eq (root : Root) : root.encode = root.entryFields.flatten := by
  rw [entryFields, List.flatten_append, flatten_entryField, flatten_entryField]
  rfl

/-- The first entries are written as the first fields. -/
theorem entryFields_keep (root : Root) (count : Nat) :
    (root.keep count).entryFields = root.entryFields.take count := by
  rw [entryFields, entryFields, keep, List.take_append, List.map_take, List.map_take,
    List.length_map]

/-- The first entries are no longer than all of them. -/
theorem mem_keep {root : Root} {count : Nat} {entry : Entry}
    (inside : entry ∈ (root.keep count).calls ++ (root.keep count).streams) :
    entry ∈ root.calls ++ root.streams := by
  obtain call | stream := List.mem_append.1 inside
  · exact List.mem_append_left _ (List.mem_of_mem_take call)
  · exact List.mem_append_right _ (List.mem_of_mem_take stream)

/-- Each of the fields of a root is a field. -/
theorem isField_of_mem {root : Root}
    (fits : ∀ entry ∈ root.calls ++ root.streams, entry.encodedLength < 2 ^ 64) :
    ∀ part ∈ root.entryFields, Slice.IsField part := by
  intro part inside
  obtain call | stream := List.mem_append.1 inside
  · obtain ⟨entry, member, rfl⟩ := List.mem_map.1 call
    exact Slice.isField_entryField .call (fits entry (List.mem_append_left _ member))
  · obtain ⟨entry, member, rfl⟩ := List.mem_map.1 stream
    exact Slice.isField_entryField .stream (fits entry (List.mem_append_right _ member))

/-- An encoded root ends between two fields after the first entries, and nowhere else. -/
theorem boundary_encode {root : Root}
    (fits : ∀ entry ∈ root.calls ++ root.streams, entry.encodedLength < 2 ^ 64) (front : Bytes) :
    Slice.Boundary root.encode front ↔ ∃ count, front = (root.keep count).encode := by
  rw [encode_eq, Slice.boundary_iff_take (isField_of_mem fits)]
  simp only [encode_eq, entryFields_keep]

end AstView.Wire.Root

namespace AstView.Document

open Wire

/-- A root is loaded from its bytes if each of its entries fits behind a length. -/
theorem load_encode {root : Root}
    (fits : ∀ entry ∈ root.calls ++ root.streams, entry.encodedLength < 2 ^ 64) :
    load root.encode = .ok (ofWire root) := by
  have calls := load_entryFields .call fun entry inside =>
    fits entry (List.mem_append_left root.streams inside)
  have streams := load_entryFields .stream fun entry inside =>
    fits entry (List.mem_append_right root.calls inside)
  rw [Root.encode_eq, Root.entryFields, List.flatten_append, load_append calls, streams]
  simp only [Except.map, beside, ofWire, Root.add, List.map_nil, List.nil_append, List.append_nil]

/-- The front of bytes that are loaded is no document or the first entries of theirs, and it is a
document if and only if it ends between two fields of the root. Fields of an encoded root are its
entries, so its front is loaded if and only if it is the encoding of the first entries, and as
those. -/
theorem load_front :
    (∀ bytes document, load bytes = .ok document → ∀ front, front <+: bytes →
      ((∃ reason, (load front).mapError Error.ofDecodeError = .error (.deserialization reason)) ∨
        ∃ kept, load front = .ok kept ∧ kept.calls <+: document.calls ∧
          kept.streams <+: document.streams) ∧
      ((∃ kept, load front = .ok kept) ↔ Slice.Boundary bytes front)) ∧
    ∀ root : Root, root.encodedLength < 2 ^ 64 → ∀ front, front <+: root.encode →
      (Slice.Boundary root.encode front ↔ ∃ count, front = (root.keep count).encode) ∧
      ∀ kept, load front = .ok kept ↔
        ∃ count, front = (root.keep count).encode ∧ kept = ofWire (root.keep count) := by
  constructor
  · rintro bytes document accepted front ⟨rest, rfl⟩
    refine ⟨?_, Slice.load_front_iff accepted⟩
    cases loaded : load front with
    | error error => exact .inl ⟨error.message, rfl⟩
    | ok kept =>
      refine .inr ⟨kept, rfl, ?_⟩
      rw [load_append loaded] at accepted
      cases missing : load rest with
      | error error =>
        rw [missing] at accepted
        cases accepted
      | ok other =>
        rw [missing] at accepted
        cases accepted
        exact ⟨List.prefix_append _ _, List.prefix_append _ _⟩
  · rintro root fits front ⟨rest, whole⟩
    have entries : ∀ entry ∈ root.calls ++ root.streams, entry.encodedLength < 2 ^ 64 :=
      fun entry inside => Nat.lt_of_le_of_lt (Root.entry_le inside) fits
    have ends := Root.boundary_encode entries front
    have read (count : Nat) : load (root.keep count).encode = .ok (ofWire (root.keep count)) :=
      load_encode fun entry inside => entries entry (Root.mem_keep inside)
    refine ⟨ends, fun kept => ?_⟩
    constructor
    · intro loaded
      have accepted := load_encode entries
      rw [← whole] at accepted ends
      obtain ⟨count, rfl⟩ := ends.1 ((Slice.load_front_iff accepted).1 ⟨kept, loaded⟩)
      exact ⟨count, rfl, Except.ok.inj (loaded.symm.trans (read count))⟩
    · rintro ⟨count, rfl, rfl⟩
      exact read count

/-- A root with two calls and a stream. -/
def threeEntries : Root where
  calls := [{ name := "a", value := some { tag := 7, children := [{}] } }, { name := "b" }]
  streams := [{ name := "c" }]

theorem load_front_threeEntries :
    threeEntries.encodedLength < 2 ^ 64 ∧
      (threeEntries.keep 1).encode <+: threeEntries.encode ∧
      load (threeEntries.keep 1).encode = .ok (ofWire (threeEntries.keep 1)) ∧
      ¬Slice.Boundary threeEntries.encode (threeEntries.encode.take 5) := by
  have fits : threeEntries.encodedLength < 2 ^ 64 := by decide
  have begins : (threeEntries.keep 1).encode <+: threeEntries.encode := by
    rw [Root.encode_eq, Root.encode_eq, Root.entryFields_keep]
    exact ⟨_, List.flatten_append.symm.trans (by rw [List.take_append_drop])⟩
  have law := load_front.2 threeEntries fits _ begins
  refine ⟨fits, begins, (law.2 _).2 ⟨1, rfl, rfl⟩, fun ends => ?_⟩
  have accepted : load threeEntries.encode = .ok (ofWire threeEntries) := load_encode (by decide)
  have cut : threeEntries.encode.take 5 = [0x0a, 0x09, 0x0a, 0x01, 0x61] := by decide +kernel
  have inside : load [0x0a, 0x09, 0x0a, 0x01, 0x61] = .error ⟨[.calls], .underflow⟩ := by cbv
  obtain ⟨kept, loaded⟩ := (load_front.1 _ _ accepted _ (List.take_prefix 5 _)).2.2 ends
  rw [cut, inside] at loaded
  cases loaded

end AstView.Document

import AstView.Proofs.Wire.Foreign

/-!
# Messages in pieces

The fields of a message can come in several pieces, each of them a message by itself. Read one after
the other they are one message: of the tags, names and slots that are there the last one counts,
children stand one after the other, and a value that both pieces of an entry have is itself merged
(`Value.combine`, `Entry.combine`). Merging is associative, so a reader that adds what is in each of
two pieces to what it has read before adds what is in both of them (`Reader.Gathers.append`).

`Value.Pieced`, `Entry.Pieced` and `Root.Pieced` say which bytes are those of a message in pieces,
at any depth. A reader gathers the pieces of each of them.
-/
namespace AstView.Wire

/-! ## Rules of merging -/

/-- What a value comes to if another one is read behind it: the later tag unless that is zero, the
later slot if one is set, and the children of both. -/
def Value.combine (first second : Value) : Value where
  tag := if second.tag = 0 then first.tag else second.tag
  slot := second.slot.or first.slot
  children := first.children ++ second.children

/-- What an entry comes to if another one is read behind it: the later name unless that is empty,
and the value that one of them has, or both values merged. -/
def Entry.combine (first second : Entry) : Entry where
  name := if second.name = "" then first.name else second.name
  value := first.value.merge Value.combine second.value

/-- Nothing is merged into the empty value but the other one. -/
theorem Value.default_combine (value : Value) : Value.combine {} value = value := by
  cases value with
  | mk tag slot children =>
    simp only [combine, Option.or_none, List.nil_append, mk.injEq, and_true]
    split
    · exact Eq.symm (by assumption)
    · rfl

/-- Nothing is merged into the empty entry but the other one. -/
theorem Entry.default_combine (entry : Entry) : Entry.combine {} entry = entry := by
  cases entry with
  | mk name value =>
    simp only [combine, Option.merge_none_left, mk.injEq, and_true]
    split
    · exact Eq.symm (by assumption)
    · rfl

instance : Std.Associative Value.combine where
  assoc first second third := by
    simp only [Value.combine, Value.mk.injEq, Option.or_assoc, List.append_assoc, and_true]
    split <;> rfl

instance : Std.Associative Entry.combine where
  assoc first second third := by
    simp only [Entry.combine, Entry.mk.injEq]
    refine ⟨?_, Std.Associative.assoc _ _ _⟩
    split <;> rfl

instance : Std.Associative Root.beside where
  assoc first second third := by
    simp only [Root.beside, List.append_assoc]

/-- An entry is added as one beside the others. -/
theorem Root.add_eq_beside (root : Root) (role : Role) (entries : List Entry) :
    root.add role entries = root.beside (({} : Root).add role entries) := by
  cases role <;> simp only [add, beside, List.nil_append, List.append_nil]

/-! ## Pieces -/

/-- Bytes that are a value in pieces. -/
inductive Value.Pieced : Value → Bytes → Prop where
  /-- A tag and a slot, each of which can be left out. -/
  | fields (tag : Int32) (slot : Option Slot) :
    Pieced { tag, slot } (encodeTag tag ++ encodeSlot slot)
  /-- A child, which can be in pieces itself. -/
  | child {child : Value} {block : Bytes} (inside : Pieced child block) :
    Pieced { children := [child] } (blockField 5 block)
  /-- Two pieces, one after the other. -/
  | append {first second : Value} {front back : Bytes} (begins : Pieced first front)
    (goes : Pieced second back) : Pieced (first.combine second) (front ++ back)

/-- Bytes that are an entry in pieces, at any depth. -/
inductive Entry.Pieced : Entry → Bytes → Prop where
  /-- A name, which can be left out. -/
  | name (name : String) : Pieced { name } (encodeName name)
  /-- A value, which can be in pieces. -/
  | value {value : Value} {block : Bytes} (inside : value.Pieced block) :
    Pieced { value := some value } (blockField 2 block)
  /-- Two pieces, one after the other. -/
  | append {first second : Entry} {front back : Bytes} (begins : Pieced first front)
    (goes : Pieced second back) : Pieced (first.combine second) (front ++ back)

/-- Bytes that are a root whose entries are in pieces, at any depth. -/
inductive Root.Pieced : Root → Bytes → Prop where
  /-- No entries. -/
  | nil : Pieced {} []
  /-- An entry. -/
  | entry (role : Role) {entry : Entry} {block : Bytes} (inside : entry.Pieced block) :
    Pieced (({} : Root).add role [entry]) (blockField (entriesNumber role) block)
  /-- Entries, one after the other. -/
  | append {first second : Root} {front back : Bytes} (begins : Pieced first front)
    (goes : Pieced second back) : Pieced (first.beside second) (front ++ back)

/-! ## Pieces are gathered -/

namespace Reader

variable {α : Type} {reader : Reader α} {combine : α → α → α}

/-- A reader adds what is in some bytes to whatever it has read before. -/
def Gathers (reader : Reader α) (combine : α → α → α) (bytes : Bytes) (message : α) : Prop :=
  ∀ before, reader.merge 0 before bytes = .ok (combine before message, [])

/-- A reader that gathers each of two pieces gathers both, one after the other. -/
theorem Gathers.append [associative : Std.Associative combine]
    (prefixes : ∀ bound, reader.PrefixBelow bound) {front back : Bytes} {first second : α}
    (begins : reader.Gathers combine front first) (goes : reader.Gathers combine back second) :
    reader.Gathers combine (front ++ back) (combine first second) := by
  intro before
  rw [merge_append (prefixes _) (Nat.le_refl _) (begins before), goes, associative.assoc]

end Reader

/-- A value in pieces is gathered. -/
theorem Value.Pieced.gathers {value : Value} {bytes : Bytes} (pieced : value.Pieced bytes)
    (fits : bytes.length < 2 ^ 64) : Value.reader.Gathers Value.combine bytes value := by
  induction pieced with
  | fields tag slot =>
    intro before
    rw [List.length_append] at fits
    have slotExact := length_encodeSlot_of_length (by omega : (encodeSlot slot).length < 2 ^ 64)
    have slotRead (value : Value) := merge_encodeSlot_over (Nat.zero_le ([] : Bytes).length) value
      slot (by omega)
    simp only [List.append_nil] at slotRead
    rw [merge_encodeTag_over (Nat.zero_le _), slotRead, Value.reader.merge_nil, combine,
      List.append_nil]
  | @child child block inside ih =>
    intro before
    have short := length_le_blockField 5 block
    have whole := ih (by omega) {}
    rw [default_combine] at whole
    rw [merge_childField (by omega) whole, combine, if_pos rfl, Option.none_or]
  | append _ _ begins goes =>
    rw [List.length_append] at fits
    exact .append reader_prefix (begins (by omega)) (goes (by omega))

/-- An entry in pieces is gathered. -/
theorem Entry.Pieced.gathers {entry : Entry} {bytes : Bytes} (pieced : entry.Pieced bytes)
    (role : Role) (fits : bytes.length < 2 ^ 64) :
    (Entry.reader role).Gathers Entry.combine bytes entry := by
  induction pieced with
  | name name =>
    intro before
    have read := merge_encodeName_over role (Nat.zero_le ([] : Bytes).length) before
      (name_fits_of_length fits)
    rw [List.append_nil, (Entry.reader role).merge_nil] at read
    rw [read, combine]
    cases before.value <;> rfl
  | @value value block inside =>
    intro before
    have short := length_le_blockField 2 block
    have whole := inside.gathers (by omega) (before.value.getD {})
    rw [merge_valueField role (by omega) whole, combine, if_pos rfl]
    cases before.value with
    | none => rw [Option.getD_none, Value.default_combine, Option.merge_none_left]
    | some earlier => rfl
  | append _ _ begins goes =>
    rw [List.length_append] at fits
    exact .append (Entry.reader_prefix role) (begins (by omega)) (goes (by omega))

/-- A root in pieces is gathered. -/
theorem Root.Pieced.gathers {root : Root} {bytes : Bytes} (pieced : root.Pieced bytes)
    (fits : bytes.length < 2 ^ 64) : Root.reader.Gathers Root.beside bytes root := by
  induction pieced with
  | nil =>
    intro before
    rw [Root.reader.merge_nil, beside_default]
  | @entry role entry block inside =>
    intro before
    have short := length_le_blockField (entriesNumber role) block
    have whole := inside.gathers role (by omega) {}
    rw [Entry.default_combine] at whole
    rw [merge_entryBlock role (by omega) whole, add_eq_beside]
  | append _ _ begins goes =>
    rw [List.length_append] at fits
    exact .append reader_prefix (begins (by omega)) (goes (by omega))

/-- A root in pieces is read from them. -/
theorem Root.Pieced.decode {root : Root} {bytes : Bytes} (pieced : root.Pieced bytes)
    (fits : bytes.length < 2 ^ 64) : Root.decode bytes = .ok root := by
  refine decode_eq_ok_iff.2 ?_
  rw [pieced.gathers fits {}, beside, List.nil_append, List.nil_append]

/-! ## Messages in one piece -/

mutual

/-- The bytes of a value are the value in pieces. -/
theorem Value.pieced_encode (value : Value) (fits : value.encodedLength < 2 ^ 64) :
    value.Pieced value.encode := by
  match value with
  | ⟨tag, slot, children⟩ =>
    rw [Value.encodedLength] at fits
    have whole := (Value.Pieced.fields tag slot).append (childrenPieced_encode children (by omega))
    simpa only [Value.combine, if_true, Option.none_or, List.nil_append, Value.encode] using whole

/-- The bytes of children are a value with these children in pieces. -/
theorem childrenPieced_encode (children : List Value) (fits : childrenLength children < 2 ^ 64) :
    Value.Pieced { children } (encodeChildren children) := by
  match children with
  | [] => exact .fields 0 none
  | child :: later =>
    rw [childrenLength, blockLength] at fits
    have own := Value.Pieced.child (child.pieced_encode (by omega))
    have others := childrenPieced_encode later (by omega)
    rw [encodeChildren, lengthField_eq 5 (child.length_encode (by omega))]
    simpa only [Value.combine, if_true, Option.none_or, List.singleton_append]
      using own.append others

end

/-- The bytes of an entry are the entry in pieces. -/
theorem Entry.pieced_encode (entry : Entry) (fits : entry.encodedLength < 2 ^ 64) :
    entry.Pieced entry.encode := by
  obtain ⟨name, value⟩ := entry
  cases value with
  | none =>
    rw [encode, List.append_nil]
    exact .name name
  | some value =>
    simp only [encodedLength, blockLength] at fits
    have inside := Entry.Pieced.value (value.pieced_encode (by omega))
    have whole := (Entry.Pieced.name name).append inside
    simpa only [combine, if_true, Option.merge_none_left, encode,
      lengthField_eq 2 (value.length_encode (by omega))] using whole

end AstView.Wire

namespace AstView

open Wire

/-- A document with one entry. -/
def Document.single : Role → Entry → Document
  | .call, entry => { calls := [entry] }
  | .stream, entry => { streams := [entry] }

namespace Document

/-- The document of a root with one entry has that entry. -/
theorem ofWire_add (role : Role) (entry : Wire.Entry) :
    ofWire (({} : Root).add role [entry]) = single role (.ofWire entry) := by
  cases role <;> rfl

/-- Two encoded entries in one field are loaded as one entry. It has the second name unless that is
empty, else the first one. Of two values it has the second tag unless that is zero, the second slot
if one is set, and the children of both, none of them merged; of one value it has that, and of none
the empty value. Bytes with two encoded values one after the other are a value in pieces too, and
wherever a root has values in pieces, it is loaded as that root with the pieces merged. -/
theorem load_pieces :
    (∀ (role : Role) (first second : Wire.Entry),
      blockLength (Root.entriesNumber role) (first.encodedLength + second.encodedLength) < 2 ^ 64 →
      load (blockField (Root.entriesNumber role) (first.encode ++ second.encode)) =
        .ok (single role {
          name := if second.name = "" then first.name else second.name
          tree := match first.value, second.value with
            | none, none => .nil
            | some value, none => .ofWire value
            | none, some value => .ofWire value
            | some value, some later => .ofWire {
              tag := if later.tag = 0 then value.tag else later.tag
              slot := later.slot.or value.slot
              children := value.children ++ later.children } })) ∧
    (∀ first second : Value, first.encodedLength < 2 ^ 64 → second.encodedLength < 2 ^ 64 →
      (first.combine second).Pieced (first.encode ++ second.encode)) ∧
    ∀ (root : Root) (bytes : Bytes), root.Pieced bytes → bytes.length < 2 ^ 64 →
      load bytes = .ok (ofWire root) := by
  refine ⟨?_, ?_, ?_⟩
  · intro role first second fits
    have length := fits
    rw [blockLength] at length
    have exactFirst := first.length_encode (by omega)
    have exactSecond := second.length_encode (by omega)
    have both := (first.pieced_encode (by omega)).append (second.pieced_encode (by omega))
    have short : (blockField (Root.entriesNumber role) (first.encode ++ second.encode)).length <
        2 ^ 64 := by
      rw [blockField, length_lengthField (by cases role <;> decide)
        (by rw [List.length_append]; omega), List.length_append, exactFirst, exactSecond]
      exact fits
    have read := (Root.Pieced.entry role both).decode short
    rw [load_eq_ok_iff.2 ⟨_, read, ofWire_add role _⟩]
    cases first with
    | mk name value =>
      cases second with
      | mk other later => cases value <;> cases later <;> rfl
  · intro first second firstFits secondFits
    exact (first.pieced_encode firstFits).append (second.pieced_encode secondFits)
  · intro root bytes pieced fits
    exact load_eq_ok_iff.2 ⟨root, pieced.decode fits, rfl⟩

/-- A number with an empty child. -/
def numbered : Value := { tag := 1, slot := some (.unsigned 5), children := [{}] }

/-- A truth value as a slot, without a tag. -/
def slotOnly : Value := { slot := some (.flag true) }

/-- A result that has a child in two pieces. -/
def piecedChild : Bytes := blockField 5 (numbered.encode ++ slotOnly.encode)

theorem load_pieces_slotOnly :
    load (blockField 1 (Wire.Entry.encode ⟨"a", some numbered⟩ ++
        Wire.Entry.encode ⟨"", some slotOnly⟩)) =
      .ok ⟨[⟨"a", ⟨.uint64 0, [.nil]⟩⟩], []⟩ ∧
    load (blockField 2 (blockField 2 piecedChild)) =
      .ok ⟨[], [⟨"", ⟨.nil, [⟨.uint64 0, [.nil]⟩]⟩⟩]⟩ := by
  obtain ⟨entries, values, roots⟩ := load_pieces
  have merged := entries .call ⟨"a", some numbered⟩ ⟨"", some slotOnly⟩ (by decide)
  have child := values numbered slotOnly (by decide) (by decide)
  have pieced : Root.Pieced _ (blockField 2 (blockField 2 piecedChild)) :=
    .entry .stream (.value (.child child))
  exact ⟨merged, roots _ _ pieced (by decide +kernel)⟩

end Document

end AstView

import AstView.Proofs.Document
import AstView.Proofs.Wire.RoundTrip

/-!
# Which documents there are

A document says less than a root: a payload slot that the type of its value does not call for is
not in it, and a slot that is missing is the same as a zero one. `Root.settle` brings a root into
the form in which it says as much as its document and no more. Writing the document of a root back
gives that form (`Document.toWire_ofWire`), so two roots have the same document exactly if they have
the same form.

The other way round, a document that comes out of a root has no type with a payload for a type
without one, and no number of the table for an unknown one (`Document.canonical_ofWire`). Every
document of that kind is the document of the root that it is written back to
(`Document.ofWire_toWire`).
-/
namespace AstView

/-! ## The form of a root -/

namespace Wire

/-- The slot of a type with a payload, with nothing in it. -/
def zeroSlot? : NodeType → Option Slot
  | .uint64 | .arg | .param => some (.unsigned 0)
  | .bool => some (.flag false)
  | .error | .bytes => some (.raw [])
  | _ => none

/-- Two slots are alike if they hold payloads of the same sort. -/
def Slot.like : Slot → Slot → Bool
  | .flag _, .flag _ => true
  | .unsigned _, .unsigned _ => true
  | .raw _, .raw _ => true
  | _, _ => false

/-- The slot that a tag calls for: the one that is set, if it is like the one of the type, and zero
otherwise. A type without a payload and a tag that is not in the table call for none. -/
def settleSlot (tag : Int32) (slot : Option Slot) : Option Slot :=
  ((NodeType.ofCode? tag).bind zeroSlot?).map fun zero => (slot.filter (·.like zero)).getD zero

mutual

/-- A value with the slots that its tags call for. -/
def Value.settle : Value → Value
  | ⟨tag, slot, children⟩ => ⟨tag, settleSlot tag slot, settleAll children⟩

/-- Values with the slots that their tags call for. -/
def settleAll : List Value → List Value
  | [] => []
  | value :: rest => value.settle :: settleAll rest

end

/-- An entry with a value, which is the default if there is none. -/
def Entry.settle (entry : Entry) : Entry := ⟨entry.name, some (entry.value.getD {}).settle⟩

/-- A root with a value in every entry and the slots that the tags call for. -/
def Root.settle (root : Root) : Root := ⟨root.calls.map Entry.settle, root.streams.map Entry.settle⟩

end Wire

/-! ## Kinds -/

/-- The types whose values have a payload. -/
def NodeType.withPayload : List NodeType := [.uint64, .arg, .param, .bool, .error, .bytes]

/-- The number of a type. -/
def Tag.code : Tag → Int32
  | known type => type.code
  | unknown code => code

namespace Kind

/-- The slot that holds the payload of a kind. -/
def slot : Kind → Option Wire.Slot
  | uint64 value | arg value | param value => some (.unsigned value)
  | bool value => some (.flag value)
  | error value | bytes value => some (.raw value)
  | node _ => none

/-- A kind without a payload is of a type that has none, or of a number that is not in the table. -/
def Canonical : Kind → Prop
  | node (.known type) => type ∉ NodeType.withPayload
  | node (.unknown code) => code ∉ NodeType.all.map NodeType.code
  | _ => True

instance : DecidablePred Canonical
  | node (.known type) => inferInstanceAs (Decidable (type ∉ _))
  | node (.unknown code) => inferInstanceAs (Decidable (code ∉ _))
  | uint64 _ | arg _ | param _ | bool _ | error _ | bytes _ => inferInstanceAs (Decidable True)

end Kind

/-- A number is not found if it is not in the table. -/
theorem NodeType.ofCode?_eq_none_iff {code : Int32} :
    ofCode? code = none ↔ code ∉ all.map NodeType.code := by
  simp only [ofCode?, List.find?_eq_none, decide_eq_true_eq, List.mem_map, not_exists, not_and]

namespace Wire

/-- A tag that is not in the table is a kind without a payload. -/
theorem kindOf_unknown {tag : Int32} (missing : NodeType.ofCode? tag = none) (slot : Option Slot) :
    kindOf tag slot = .node (.unknown tag) := by
  simp only [kindOf, Tag.ofCode, missing]

/-- A type without a payload is a kind without one. -/
theorem kindOf_plain {type : NodeType} (plain : type ∉ NodeType.withPayload)
    (slot : Option Slot) : kindOf type.code slot = .node (.known type) := by
  have known : Tag.ofCode type.code = .known type := by rw [Tag.ofCode, NodeType.ofCode?_code]
  rw [kindOf, known]
  cases type <;> first | rfl | exact absurd (by decide) plain

/-- A type without a payload has no slot. -/
theorem zeroSlot?_plain {type : NodeType} (plain : type ∉ NodeType.withPayload) :
    zeroSlot? type = none := by
  cases type <;> first | rfl | exact absurd (by decide) plain

/-- What a tag can be: not in the table, or the number of a type without or with a payload. -/
theorem tag_cases (tag : Int32) : NodeType.ofCode? tag = none ∨
    (∃ type ∉ NodeType.withPayload, tag = type.code) ∨
    ∃ type ∈ NodeType.withPayload, tag = type.code := by
  cases found : NodeType.ofCode? tag with
  | none => exact .inl rfl
  | some type =>
    have own := (NodeType.code_of_ofCode? found).symm
    by_cases payload : type ∈ NodeType.withPayload
    · exact .inr (.inr ⟨type, payload, own⟩)
    · exact .inr (.inl ⟨type, payload, own⟩)

/-- The kind of a value is canonical. -/
theorem canonical_kindOf (tag : Int32) (slot : Option Slot) : (kindOf tag slot).Canonical := by
  obtain missing | ⟨type, plain, rfl⟩ | ⟨type, payload, rfl⟩ := tag_cases tag
  · rw [kindOf_unknown missing]
    exact NodeType.ofCode?_eq_none_iff.1 missing
  · rw [kindOf_plain plain]
    exact plain
  · simp only [NodeType.withPayload, List.mem_cons, List.not_mem_nil, or_false] at payload
    obtain rfl | rfl | rfl | rfl | rfl | rfl := payload <;> trivial

/-- The kind of a value has its tag for the number of its type. -/
theorem code_kindOf (tag : Int32) (slot : Option Slot) : (kindOf tag slot).tag.code = tag := by
  obtain missing | ⟨type, plain, rfl⟩ | ⟨type, payload, rfl⟩ := tag_cases tag
  · rw [kindOf_unknown missing]
    rfl
  · rw [kindOf_plain plain]
    rfl
  · simp only [NodeType.withPayload, List.mem_cons, List.not_mem_nil, or_false] at payload
    obtain rfl | rfl | rfl | rfl | rfl | rfl := payload <;> rfl

/-- The kind of a value has the slot that its tag calls for. -/
theorem slot_kindOf (tag : Int32) (slot : Option Slot) :
    (kindOf tag slot).slot = settleSlot tag slot := by
  obtain missing | ⟨type, plain, rfl⟩ | ⟨type, payload, rfl⟩ := tag_cases tag
  · rw [kindOf_unknown missing, settleSlot, missing]
    rfl
  · rw [kindOf_plain plain, settleSlot, NodeType.ofCode?_code, Option.bind_some,
      zeroSlot?_plain plain]
    rfl
  · simp only [NodeType.withPayload, List.mem_cons, List.not_mem_nil, or_false] at payload
    obtain rfl | rfl | rfl | rfl | rfl | rfl := payload <;>
      rcases slot with _ | (_ | _ | _) <;> rfl

/-- A canonical kind is that of its number and its slot. -/
theorem kindOf_slot {kind : Kind} (canonical : kind.Canonical) :
    kindOf kind.tag.code kind.slot = kind := by
  match kind with
  | .uint64 _ | .arg _ | .param _ | .bool _ | .error _ | .bytes _ => rfl
  | .node (.known type) => exact kindOf_plain canonical _
  | .node (.unknown code) => exact kindOf_unknown (NodeType.ofCode?_eq_none_iff.2 canonical) _

end Wire

/-! ## Trees -/

namespace Tree

mutual

/-- The value on the wire that a tree is written back to. -/
def toWire : Tree → Wire.Value
  | ⟨kind, children⟩ => ⟨kind.tag.code, kind.slot, forestToWire children⟩

/-- The values on the wire that some trees are written back to. -/
def forestToWire : List Tree → List Wire.Value
  | [] => []
  | tree :: rest => toWire tree :: forestToWire rest

end

mutual

/-- The tree of a value is written back to the form of the value. -/
theorem toWire_ofWire (value : Wire.Value) : (ofWire value).toWire = value.settle := by
  match value with
  | ⟨tag, slot, children⟩ =>
    rw [ofWire, toWire, Wire.code_kindOf, Wire.slot_kindOf, forestToWire_ofWire, Wire.Value.settle]

/-- The trees of some values are written back to the forms of the values. -/
theorem forestToWire_ofWire (values : List Wire.Value) :
    forestToWire (forestOfWire values) = Wire.settleAll values := by
  match values with
  | [] => rfl
  | value :: rest =>
    rw [forestOfWire, forestToWire, toWire_ofWire, forestToWire_ofWire, Wire.settleAll]

end

mutual

/-- Every kind in the tree of a value is canonical. -/
theorem canonical_ofWire (value : Wire.Value) : ∀ kind ∈ (ofWire value).kinds, kind.Canonical := by
  match value with
  | ⟨tag, slot, children⟩ =>
    intro kind inside
    rw [ofWire, kinds, List.mem_cons] at inside
    obtain rfl | below := inside
    · exact Wire.canonical_kindOf tag slot
    · exact forestCanonical_ofWire children kind below

/-- Every kind in the trees of some values is canonical. -/
theorem forestCanonical_ofWire (values : List Wire.Value) :
    ∀ kind ∈ forestKinds (forestOfWire values), kind.Canonical := by
  match values with
  | [] => exact fun _ none => absurd none List.not_mem_nil
  | value :: rest =>
    intro kind inside
    rw [forestOfWire, forestKinds, List.mem_append] at inside
    obtain first | other := inside
    · exact canonical_ofWire value kind first
    · exact forestCanonical_ofWire rest kind other

end

/-- Trees of canonical kinds are those of the values that they are written back to. -/
theorem forestOfWire_toWire {forest : List Tree}
    (canonical : ∀ kind ∈ forestKinds forest, kind.Canonical) :
    forestOfWire (forestToWire forest) = forest := by
  induction forest using forest_induction with
  | nil => rfl
  | cons kind children rest below behind =>
    simp only [forestKinds, kinds, List.cons_append, List.mem_cons, List.mem_append] at canonical
    have own := Wire.kindOf_slot (canonical kind (.inl rfl))
    have inner := below fun kind inside => canonical kind (.inr (.inl inside))
    have others := behind fun kind inside => canonical kind (.inr (.inr inside))
    rw [forestToWire, toWire, forestOfWire, ofWire, own, inner, others]

/-- A tree of canonical kinds is that of the value that it is written back to. -/
theorem ofWire_toWire {tree : Tree} (canonical : ∀ kind ∈ tree.kinds, kind.Canonical) :
    ofWire tree.toWire = tree := by
  have single : ∀ kind ∈ forestKinds [tree], kind.Canonical := by
    simpa only [forestKinds, List.append_nil] using canonical
  exact (List.cons.inj (forestOfWire_toWire single)).1

end Tree

/-! ## Documents -/

/-- The entry on the wire that an entry is written back to. -/
def Entry.toWire (entry : Entry) : Wire.Entry := ⟨entry.name, some entry.tree.toWire⟩

/-- The entry of an entry on the wire is written back to the form of that. -/
theorem Entry.toWire_ofWire (entry : Wire.Entry) : (ofWire entry).toWire = entry.settle := by
  obtain ⟨name, value⟩ := entry
  cases value with
  | none => rfl
  | some value =>
    rw [ofWire, toWire, Option.map_some, Option.getD_some, Tree.toWire_ofWire, Wire.Entry.settle]
    rfl

/-- An entry of canonical kinds is that of the one that it is written back to. -/
theorem Entry.ofWire_toWire {entry : Entry}
    (canonical : ∀ kind ∈ entry.tree.kinds, kind.Canonical) : ofWire entry.toWire = entry := by
  rw [toWire, ofWire, Option.map_some, Option.getD_some, Tree.ofWire_toWire canonical]

/-- Every kind of an entry on the wire is canonical. -/
theorem Entry.canonical_ofWire (entry : Wire.Entry) :
    ∀ kind ∈ (ofWire entry).tree.kinds, kind.Canonical := by
  obtain ⟨name, value⟩ := entry
  cases value with
  | none => exact Tree.canonical_ofWire {}
  | some value => exact Tree.canonical_ofWire value

namespace Document

/-- The root that a document is written back to. -/
def toWire (document : Document) : Wire.Root :=
  ⟨document.calls.map Entry.toWire, document.streams.map Entry.toWire⟩

/-- Every kind of a document is canonical, at any depth. -/
def Canonical (document : Document) : Prop :=
  ∀ entry ∈ document.calls ++ document.streams, ∀ kind ∈ entry.tree.kinds, kind.Canonical

instance (document : Document) : Decidable document.Canonical :=
  inferInstanceAs (Decidable (∀ _ ∈ _, _))

/-- The document of a root is written back to the form of the root. -/
theorem toWire_ofWire (root : Wire.Root) : (ofWire root).toWire = root.settle := by
  simp only [ofWire, toWire, Wire.Root.settle, List.map_map, Function.comp_def, Entry.toWire_ofWire]

/-- The document of a root is canonical. -/
theorem canonical_ofWire (root : Wire.Root) : (ofWire root).Canonical := by
  intro entry inside
  rw [ofWire, ← List.map_append] at inside
  obtain ⟨own, -, rfl⟩ := List.mem_map.1 inside
  exact Entry.canonical_ofWire own

/-- A canonical document is that of the root that it is written back to. -/
theorem ofWire_toWire {document : Document} (canonical : document.Canonical) :
    ofWire document.toWire = document := by
  obtain ⟨calls, streams⟩ := document
  have back {entries : List Entry} (inside : ∀ entry ∈ entries, entry ∈ calls ++ streams) :
      (entries.map Entry.toWire).map Entry.ofWire = entries := by
    have own (entry) (here : entry ∈ entries) : (Entry.ofWire ∘ Entry.toWire) entry = entry :=
      Entry.ofWire_toWire (canonical entry (inside entry here))
    rw [List.map_map, List.map_congr_left own, List.map_id']
  have callsBack := back fun entry => List.mem_append_left streams
  have streamsBack := back fun entry => List.mem_append_right calls
  rw [toWire, ofWire, callsBack, streamsBack]

/-- Roots have the same document exactly if they have the same form. -/
theorem ofWire_eq_iff {first second : Wire.Root} :
    ofWire first = ofWire second ↔ first.settle = second.settle := by
  rw [← toWire_ofWire, ← toWire_ofWire]
  constructor
  · exact congrArg toWire
  · intro same
    calc
      ofWire first = ofWire (ofWire first).toWire := (ofWire_toWire (canonical_ofWire first)).symm
      _ = ofWire (ofWire second).toWire := congrArg ofWire same
      _ = ofWire second := ofWire_toWire (canonical_ofWire second)

/-- The documents that are loaded are the canonical ones: what is loaded is canonical, and a
canonical document whose bytes can be written is loaded from some bytes. Two roots are loaded as the
same document exactly if they are the same with the default for missing values and with the slots
that the tags call for. -/
theorem load_canonical :
    (∀ bytes document, load bytes = .ok document → document.Canonical) ∧
    (∀ document : Document, document.Canonical → document.toWire.encodedLength < 2 ^ 64 →
      ∃ bytes, load bytes = .ok document) ∧
    ∀ first second : Wire.Root,
      (ofWire first = ofWire second ↔ first.settle = second.settle) ∧
      (first.encodedLength < 2 ^ 64 → second.encodedLength < 2 ^ 64 →
        ((∃ document, load first.encode = .ok document ∧ load second.encode = .ok document) ↔
          first.settle = second.settle)) := by
  refine ⟨?_, ?_, fun first second => ⟨ofWire_eq_iff, ?_⟩⟩
  · intro bytes document loaded
    obtain ⟨root, -, rfl⟩ := load_eq_ok_iff.1 loaded
    exact canonical_ofWire root
  · intro document canonical fits
    exact ⟨document.toWire.encode, (load_root fits).trans (by rw [ofWire_toWire canonical])⟩
  · intro firstFits secondFits
    rw [load_root firstFits, load_root secondFits, ← ofWire_eq_iff]
    constructor
    · rintro ⟨document, ⟨⟩, same⟩
      exact (Except.ok.inj same).symm
    · intro same
      exact ⟨ofWire first, rfl, congrArg Except.ok same.symm⟩

/-- A value of an unknown type above a truth value. -/
def unknownDocument : Document where
  calls := [⟨"", ⟨.node (.unknown (-1)), [⟨.bool true, []⟩]⟩⟩]

/-- A call without a result. -/
def bareRoot : Wire.Root where
  calls := [{ name := "a" }]

/-- A call whose result is empty but for a slot that means nothing. -/
def markedRoot : Wire.Root where
  calls := [{ name := "a", value := some { slot := some (.raw [7]) } }]

theorem load_canonical_unknownDocument :
    (∃ bytes, load bytes = .ok unknownDocument) ∧
      ∃ document, load bareRoot.encode = .ok document ∧ load markedRoot.encode = .ok document := by
  obtain ⟨-, back, roots⟩ := load_canonical
  have fits : unknownDocument.toWire.encodedLength < 2 ^ 64 := by decide
  have bareFits : bareRoot.encodedLength < 2 ^ 64 := by decide
  have markedFits : markedRoot.encodedLength < 2 ^ 64 := by decide
  have same : bareRoot.settle = markedRoot.settle := rfl
  refine ⟨back unknownDocument (by decide) fits, ?_⟩
  exact ((roots bareRoot markedRoot).2 bareFits markedFits).2 same

end Document

end AstView

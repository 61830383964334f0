import AstView.Proofs.Dot.Declaration
import Mathlib.Algebra.GroupWithZero.Nat
import Mathlib.Data.List.Forall2

/-!
# Graphs with and without escapes

Escaping a label takes one more byte for every backslash, double quote and newline in it, and leaves
a label without them as it is. Names of types, numbers and hexadecimal digits have none of the
three, so only the names of entries and the texts of errors can have them. The bytes of a graph
grow by as many as there are in all of these (`length_render`), and nothing can make up for it: the
two graphs of a document have the same bytes only if there are none. Line by line the two differ
only between the quotes of the labels that they declare (`AgreesOutsideLabel`).
-/
namespace AstView.Dot

/-! ## Labels -/

/-- A character for which an escaped label has two. -/
def Special (char : Char) : Prop := char = '\\' ∨ char = '"' ∨ char = '\n'

instance : DecidablePred Special := fun char =>
  inferInstanceAs (Decidable (char = '\\' ∨ char = '"' ∨ char = '\n'))

/-- How many such characters a label has. -/
def specials (label : String) : Nat := label.toList.countP fun char => decide (Special char)

/-- A label that has none of them. -/
def Verbatim (label : String) : Prop := ∀ char ∈ label.toList, ¬Special char

theorem specials_eq_zero_iff {label : String} : specials label = 0 ↔ Verbatim label := by
  simp only [specials, Verbatim, List.countP_eq_zero, decide_eq_true_eq]

/-- A label without special characters stands as it is. -/
theorem escapeLabel_eq_self {label : String} (verbatim : Verbatim label) :
    escapeLabel label = label := by
  have kept : ∀ char ∈ label.toList, escapeChar char = [char] := by
    intro char inside
    have plain := verbatim char inside
    obtain backslash | quote | newline | ⟨-, same⟩ := escapeChar_cases char
    · exact absurd (.inl backslash) plain
    · exact absurd (.inr (.inl quote)) plain
    · exact absurd (.inr (.inr newline)) plain
    · exact same
  rw [escapeLabel, List.flatMap_congr kept, List.flatMap_singleton', String.ofList_toList]

/-- A special character takes one more byte. -/
theorem length_escapeChar (char : Char) :
    ((escapeChar char).flatMap Utf8.encodeChar).length =
      (Utf8.encodeChar char).length + if Special char then 1 else 0 := by
  obtain rfl | rfl | rfl | ⟨⟨backslash, quote, newline⟩, same⟩ := escapeChar_cases char
  · rfl
  · rfl
  · rfl
  · have plain : ¬Special char := by simp [Special, backslash, quote, newline]
    rw [same, if_neg plain, List.flatMap_singleton, Nat.add_zero]

/-- A label grows by one byte for every special character. -/
theorem length_escapeLabel (label : String) :
    (Utf8.encode (escapeLabel label)).length =
      (Utf8.encode label).length + specials label := by
  rw [Utf8.encode, toList_escapeLabel, Utf8.encode, specials]
  induction label.toList with
  | nil => rfl
  | cons char rest ih =>
    rw [List.flatMap_cons, List.flatMap_append, List.length_append, length_escapeChar, ih,
      List.flatMap_cons, List.length_append, List.countP_cons]
    simp only [decide_eq_true_eq]
    omega

/-- The label of a kind has special characters only in the text of an error. -/
theorem verbatim_label_iff {kind : Kind} :
    Verbatim kind.label ↔ ∀ bytes, kind = .error bytes → Verbatim (Utf8.lossy bytes) := by
  have shown {char : Char} (special : Special char) : char ∈ kind.label.toList ↔
      ∃ bytes, kind = .error bytes ∧ char ∈ (Utf8.lossy bytes).toList := by
    obtain rfl | rfl | rfl := special
    all_goals exact Kind.mem_label_iff rfl
  constructor
  · rintro verbatim bytes rfl char inside special
    exact verbatim char ((shown special).2 ⟨bytes, rfl, inside⟩) special
  · intro verbatim char inside special
    obtain ⟨bytes, same, text⟩ := (shown special).1 inside
    exact verbatim bytes same char text special

/-- No name of an entry and no text of an error has a special character. -/
def AllVerbatim (document : Document) : Prop :=
  ∀ entry ∈ document.calls ++ document.streams,
    Verbatim entry.name ∧ ∀ bytes, .error bytes ∈ entry.tree.kinds → Verbatim (Utf8.lossy bytes)

/-- No label of a document has a special character exactly if no name and no text of an error
has. -/
theorem verbatim_pairs_iff {document : Document} :
    (∀ pair ∈ document.pairs, Verbatim pair.2) ↔ AllVerbatim document := by
  have kinds (entry : Entry) : (∀ kind ∈ entry.tree.kinds, Verbatim kind.label) ↔
      ∀ bytes, .error bytes ∈ entry.tree.kinds → Verbatim (Utf8.lossy bytes) := by
    constructor
    · intro verbatim bytes inside
      exact verbatim_label_iff.1 (verbatim _ inside) bytes rfl
    · intro verbatim kind inside
      apply verbatim_label_iff.2
      rintro bytes rfl
      exact verbatim bytes inside
  simp only [Document.forall_label_iff, kinds, AllVerbatim]

/-! ## Lines -/

/-- The line of a node with what stands between the quotes of its label. -/
def declaration (id : NodeId) (shown : String) : String :=
  id.text ++ " [label" ++ beforeLabel id ++ shown ++ "\"" ++ afterLabel id

theorem toList_declaration (id : NodeId) (shown : String) :
    (declaration id shown).toList = (id.text ++ " [label" ++ beforeLabel id).toList ++
      (shown.toList ++ '"' :: (afterLabel id).toList) := by
  simp only [declaration, String.toList_append, List.append_assoc]
  rfl

/-- The line of a node is its declaration with the label that it shows. -/
theorem text_node (escape : Bool) (id : NodeId) (label : String) :
    (Statement.node id label).text escape =
      declaration id (if escape then escapeLabel label else label) := by
  rw [← String.toList_inj, toList_shown, toList_declaration]

/-- A line that declares no node is the same with and without escapes. -/
theorem text_eq {one : Statement} (other : one.pair? = none) : one.text true = one.text false := by
  cases one with
  | node id label => cases other
  | _ => rfl

/-- Only nodes have a label. -/
theorem eq_node_of_pair? {one : Statement} {id : NodeId} {label : String}
    (shown : one.pair? = some (id, label)) : one = .node id label := by
  cases one with
  | node id label =>
    cases shown
    rfl
  | _ => cases shown

/-- The labels of a graph are those of the entries and values of the document. -/
theorem pairs_statements (document : Document) (name : String) :
    (statements document name).filterMap Statement.pair? = document.pairs := pairs_body document

/-- A node of a graph is an entry or a value of the document. -/
theorem mem_pairs_of_mem {document : Document} {name : String} {one : Statement}
    {pair : NodeId × String} (inside : one ∈ statements document name)
    (shown : one.pair? = some pair) : pair ∈ document.pairs := by
  rw [← pairs_statements document name]
  exact List.mem_filterMap.2 ⟨one, inside, shown⟩

/-- Two lines are the same, or they declare an entry or a value of a document and differ only
between the quotes, where one has the label and the other one its escaped form. -/
inductive AgreesOutsideLabel (document : Document) : String → String → Prop where
  | same (line : String) : AgreesOutsideLabel document line line
  | declared {id : NodeId} {label : String} (shown : (id, label) ∈ document.pairs) :
    AgreesOutsideLabel document (declaration id label) (declaration id (escapeLabel label))

/-- The line of a statement without escapes agrees with the one that has them. -/
theorem agreesOutsideLabel_text {document : Document} {name : String} {one : Statement}
    (inside : one ∈ statements document name) :
    AgreesOutsideLabel document (one.text false) (one.text true) := by
  cases shown : one.pair? with
  | none =>
    rw [text_eq shown]
    exact .same _
  | some pair =>
    have declared := mem_pairs_of_mem inside shown
    obtain rfl := eq_node_of_pair? shown
    rw [text_node, text_node]
    exact .declared declared

/-- Lines that agree are the same if no label has a special character. -/
theorem AgreesOutsideLabel.eq {document : Document} {plain escaped : String}
    (agrees : AgreesOutsideLabel document plain escaped)
    (verbatim : ∀ pair ∈ document.pairs, Verbatim pair.2) : escaped = plain := by
  cases agrees with
  | same line => rfl
  | declared shown => rw [escapeLabel_eq_self (verbatim _ shown)]

/-! ## Graphs -/

/-- Some lines, each written and then a newline. -/
def written (lines : List String) : Rendering :=
  lines.flatMap fun line => [Utf8.encode line, Utf8.encode "\n"]

/-- A graph is written line by line. -/
theorem render_eq (escape : Bool) (document : Document) (name : String) :
    render escape document name = written ((statements document name).map (·.text escape)) := by
  rw [render, written, List.flatMap_map, List.map_flatMap]
  rfl

theorem length_written_cons (line : String) (lines : List String) :
    (written (line :: lines)).bytes.length =
      (Utf8.encode line).length + 1 + (written lines).bytes.length := by
  have newline : (Utf8.encode "\n").length = 1 := rfl
  simp only [written, Rendering.bytes, List.flatMap_cons, List.cons_append, List.nil_append,
    List.flatten_cons, List.length_append, newline, Nat.add_assoc]

/-- Some lines grow by the special characters of the labels in them. -/
theorem length_written (all : List Statement) :
    (written (all.map (·.text true))).bytes.length =
      (written (all.map (·.text false))).bytes.length +
        ((all.filterMap Statement.pair?).map fun pair => specials pair.2).sum := by
  induction all with
  | nil => rfl
  | cons one rest ih =>
    -- What stands around the label and the newline at the end take the same room in both.
    rw [List.map_cons, List.map_cons, length_written_cons, length_written_cons, ih]
    cases shown : one.pair? with
    | none =>
      rw [List.filterMap_cons_none shown, text_eq shown]
      omega
    | some pair =>
      obtain rfl := eq_node_of_pair? shown
      rw [List.filterMap_cons_some shown, List.map_cons, List.sum_cons, text_node, text_node,
        if_pos rfl, if_neg Bool.false_ne_true, declaration, declaration]
      simp only [Utf8.encode_append, List.length_append, length_escapeLabel]
      omega

/-- A graph grows by one byte for every special character in its labels. -/
theorem length_render (document : Document) (name : String) :
    (render true document name).bytes.length = (render false document name).bytes.length +
      (document.pairs.map fun pair => specials pair.2).sum := by
  rw [render_eq, render_eq, length_written, pairs_statements]

/-- Without special characters in its labels a graph is the same with and without escapes. -/
theorem render_of_verbatim {document : Document}
    (verbatim : ∀ pair ∈ document.pairs, Verbatim pair.2) (name : String) :
    render true document name = render false document name := by
  rw [render_eq, render_eq]
  apply congrArg written
  apply List.map_congr_left
  intro one inside
  exact (agreesOutsideLabel_text inside).eq verbatim

/-- Escaping changes a graph only where it must. The graphs of a document with and without escapes
have the same bytes exactly if no name of an entry and no text of an error has a backslash, a double
quote or a newline. The one with escapes is never shorter, and it is written in as many lines, which
differ only between the quotes of declared labels. -/
theorem escaping_onlyWhereNeeded (document : Document) (name : String) :
    ((render true document name).bytes = (render false document name).bytes ↔
      AllVerbatim document) ∧
      (render false document name).bytes.length ≤ (render true document name).bytes.length ∧
      ∃ plain escaped : List String,
        render false document name = written plain ∧
        render true document name = written escaped ∧
        plain.length = escaped.length ∧
        List.Forall₂ (AgreesOutsideLabel document) plain escaped := by
  have grown := length_render document name
  refine ⟨?_, ?_, ?_⟩
  · rw [← verbatim_pairs_iff]
    constructor
    · intro same pair inside
      -- Labels only ever grow, so one that does is not made up for by another.
      have none : (document.pairs.map fun pair => specials pair.2).sum = 0 := by
        rw [same] at grown
        omega
      have each := List.sum_eq_zero_iff_forall_eq_nat.1 none _ (List.mem_map_of_mem inside)
      exact specials_eq_zero_iff.1 each
    · intro verbatim
      rw [render_of_verbatim verbatim name]
  · rw [grown]
    exact Nat.le_add_right _ _
  · refine ⟨_, _, render_eq false document name, render_eq true document name, ?_, ?_⟩
    · rw [List.length_map, List.length_map]
    · rw [List.forall₂_map_left_iff, List.forall₂_map_right_iff, List.forall₂_same]
      exact fun one inside => agreesOutsideLabel_text inside

end AstView.Dot

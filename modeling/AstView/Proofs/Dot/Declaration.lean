import AstView.Proofs.Dot.Line

/-!
# Labels that stand as they are

Without escaping, the quotes of a label cannot be told from quotes in it. But the identifier in
front of a declaration says what stands around the label, and a label of one line is what is left
of the line between the two. Only declarations end with a bracket, since the line of the root ends
with a brace whatever the name is. So the declarations of a graph can be read.
-/
namespace AstView.Dot

open Text (words lines)

/-- The identifier that a line declares, and its label as it stands there. -/
def declaration? (line : String) : Option (String × String) := do
  let first ← (words line).head?
  let id ← NodeId.read first
  let inside ← line.toList.dropPrefix? (first ++ " [label" ++ beforeLabel id).toList
  let label ← inside.dropSuffix? ('"' :: (afterLabel id).toList)
  return (first, String.ofList label)

/-- The identifier and the label of a node are read from its line. -/
theorem declaration?_node (id : NodeId) (label : String) :
    declaration? ((Statement.node id label).text false) = some (id.text, label) := by
  have whole : (Statement.node id label).text false =
      id.text ++ " " ++ ("[" ++ attributes id label ++ "]") := by
    change id.text ++ " [" ++ attributes id label ++ "]" = _
    simp [← String.toList_inj]
  have first : (words ((Statement.node id label).text false)).head? = some id.text := by
    rw [whole, Text.words_space (id.not_mem_text (by decide))]
    rfl
  have inside := List.dropPrefix?_append_of_beq (label.toList ++ '"' :: (afterLabel id).toList)
    (beq_self_eq_true (id.text ++ " [label" ++ beforeLabel id).toList)
  have shown : (label.toList ++ '"' :: (afterLabel id).toList).dropSuffix?
      ('"' :: (afterLabel id).toList) = some label.toList :=
    List.dropSuffix?_eq_some_iff.2 ⟨_, rfl, beq_self_eq_true _⟩
  have chars := toList_shown false id label
  rw [if_neg Bool.false_ne_true] at chars
  simp only [declaration?, first, NodeId.read_text, chars, inside, shown, Option.bind_eq_bind,
    Option.bind_some, Option.pure_def, String.ofList_toList]

/-- What does not end with a bracket declares nothing. -/
theorem declaration?_eq_none {line : String} (last : line.toList.getLast? ≠ some ']') :
    declaration? line = none := by
  rw [Option.eq_none_iff_forall_ne_some]
  intro found read
  simp only [declaration?, Option.bind_eq_bind, Option.bind_eq_some_iff] at read
  obtain ⟨first, -, id, -, inside, opened, label, closed, -⟩ := read
  obtain ⟨front, whole, -⟩ := List.dropPrefix?_eq_some_iff.1 opened
  obtain ⟨back, rest, same⟩ := List.dropSuffix?_eq_some_iff.1 closed
  have bracket : back.getLast? = some ']' := by
    rw [eq_of_beq same]
    cases id with
    | entry role index =>
      exact (by decide : ('"' :: ", shape=\"box\"]".toList).getLast? = some ']')
    | value role index path => exact (by decide : ('"' :: "]".toList).getLast? = some ']')
  apply last
  rw [whole, rest, ← List.append_assoc, List.getLast?_append, bracket]
  rfl

/-- The node of a statement with its label. -/
def Statement.pair? : Statement → Option (NodeId × String)
  | node id label => some (id, label)
  | _ => none

/-- A line declares the node of its statement, with the label of the node. -/
theorem declaration?_text {one : Statement} (inner : one.Inner) :
    declaration? (one.text false) = one.pair?.map fun (id, label) => (id.text, label) := by
  have plain (id : NodeId) : ']' ∉ id.text.toList := id.not_mem_text (by decide)
  have other {line : String} (missing : ']' ∉ line.toList) : declaration? line = none :=
    declaration?_eq_none fun last => missing (List.mem_of_getLast? last)
  cases inner with
  | anchor role id =>
    have anchor : ']' ∉ role.anchor.toList := by cases role <;> decide
    have missing : ']' ∉ (role.anchor ++ " -> " ++ id.text).toList := by simp [anchor, plain]
    exact other missing
  | openCluster id =>
    have missing : ']' ∉ ("subgraph cluster_" ++ id.text ++ " \x7b").toList := by simp [plain]
    exact other missing
  | node id label => exact declaration?_node id label
  | edge source target =>
    have missing : ']' ∉ (source.text ++ " -> " ++ target.text).toList := by simp [plain]
    exact other missing
  | close => exact other (by decide : ']' ∉ "\x7d".toList)

/-! ## The declarations of a document -/

/-- The nodes of a forest are its values. -/
theorem pairs_forestStatements (id : NodeId) (index : Nat) (forest : List Tree) :
    (forestStatements id index forest).filterMap Statement.pair? =
      Tree.forestPairs id index forest := by
  induction forest using Tree.forest_induction generalizing id index with
  | nil => rfl
  | cons kind children rest below behind =>
    have edge : (Statement.edge id (id.child index)).pair? = none := rfl
    have node : (Statement.node (id.child index) kind.label).pair? =
        some (id.child index, kind.label) := rfl
    rw [forestStatements, treeStatements, Tree.forestPairs, Tree.pairs,
      List.filterMap_cons_none edge, List.filterMap_append, List.filterMap_cons_some node, below,
      behind]

/-- The nodes of an entry are the entry and the values of its tree. -/
theorem pairs_entryStatements (role : Role) (index : Nat) (entry : Entry) :
    (entryStatements role index entry).filterMap Statement.pair? = entry.pairs role index := by
  have node : (Statement.node (.entry role index) entry.name).pair? =
      some (.entry role index, entry.name) := rfl
  have own : (entryBody (.entry role index) entry).filterMap Statement.pair? =
      entry.pairs role index := by
    rw [entryBody_eq, List.filterMap_cons_some node, pairs_forestStatements, Entry.pairs_eq]
  cases role with
  | call =>
    have close : [Statement.close].filterMap Statement.pair? = [] := rfl
    simp only [entryStatements]
    rw [List.filterMap_cons_none rfl, List.filterMap_cons_none rfl, List.filterMap_append, own,
      close, List.append_nil]
  | stream =>
    simp only [entryStatements]
    rw [List.filterMap_cons_none rfl, own]

theorem pairs_entriesStatements (role : Role) (index : Nat) (entries : List Entry) :
    (entriesStatements role index entries).filterMap Statement.pair? =
      Document.entriesPairs role index entries := by
  induction entries generalizing index with
  | nil => rfl
  | cons entry rest ih =>
    rw [entriesStatements, Document.entriesPairs, List.filterMap_append, pairs_entryStatements, ih]

/-- The nodes of a graph are the entries and values of the document. -/
theorem pairs_body (document : Document) :
    (body document).filterMap Statement.pair? = document.pairs := by
  have close : [Statement.close].filterMap Statement.pair? = [] := rfl
  rw [body, List.filterMap_append, List.filterMap_append, pairs_entriesStatements,
    pairs_entriesStatements, close, List.append_nil, Document.pairs]

/-- Statements stay on their lines if no name and no text of an error has a newline. -/
theorem newline_not_mem_plain {document : Document} (flat : document.OneLine) {one : Statement}
    (inside : one ∈ body document) : '\n' ∉ (one.text false).toList := by
  apply newline_not_mem_of_label (inner_of_mem_body inside)
  rintro id label rfl
  apply Document.newline_not_mem_pairs flat (id, label)
  rw [← pairs_body]
  exact List.mem_filterMap.2 ⟨_, inside, rfl⟩

/-- The lines of a graph declare the entries and values of the document in order. -/
theorem declarations_graphText {document : Document} {name : String}
    (oneLine : '\n' ∉ name.toList) (flat : document.OneLine) :
    (lines (graphText false document name)).filterMap declaration? =
      document.pairs.map fun (id, label) => (id.text, label) := by
  have graph : declaration? "digraph G \x7b" = none := declaration?_eq_none (by decide)
  have rank : declaration? "newrank=\"true\"" = none := declaration?_eq_none (by decide)
  have empty : declaration? "" = none := declaration?_eq_none (by decide)
  have root : declaration? (name ++ " -> \x7b streams  calls \x7d") = none := by
    have brace : " -> \x7b streams  calls \x7d".toList.getLast? = some '\x7d' := by decide
    apply declaration?_eq_none
    rw [String.toList_append, List.getLast?_append, brace]
    exact nofun
  rw [lines_of_flat (fun _ => newline_not_mem_plain flat) oneLine,
    List.filterMap_cons_none graph, List.filterMap_cons_none rank, List.filterMap_cons_none root,
    List.filterMap_cons_none empty, List.filterMap_map, ← pairs_body, List.map_filterMap]
  apply List.filterMap_congr
  intro one inside
  exact declaration?_text (inner_of_mem_body inside)

end AstView.Dot

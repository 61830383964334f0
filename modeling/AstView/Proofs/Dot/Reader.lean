import AstView.Proofs.Dot.Line

/-!
# Reading graphs

A graph with escaped labels is read back in three steps. The text is cut into lines, and behind
the four of the head every line is read as a statement by its words, with the label of a node
between its quotes. From the statements the entries and their trees are read in order: the children
of a node go on as long as an edge leads from it to its next child. Last, the labels of values are
read as kinds.

The reader goes forward only. It finds the end of the children of a node because what follows is
an edge from a node closer to the root, a brace or the next entry (`Ends`).
-/
namespace AstView.Dot

open Text (words lines)

/-! ## Statements -/

/-- The role of the node that all entries of the role hang from. -/
def roleOf? (anchor : String) : Option Role :=
  if anchor = Role.call.anchor then some .call
  else if anchor = Role.stream.anchor then some .stream
  else none

/-- Reads what an arrow leads from and to. -/
def readArrow (source : String) : List String → Option Statement
  | [target] =>
    match roleOf? source with
    | some role => do return .anchor role (← NodeId.read target)
    | none => do return .edge (← NodeId.read source) (← NodeId.read target)
  | _ => none

/-- Reads the name of a cluster. -/
def readCluster (name : String) : Option Statement := do
  let id ← name.toList.dropPrefix? "cluster_".toList
  return .openCluster (← NodeId.read (String.ofList id))

/-- Reads a node out of a line with a given first word. -/
def readNode (first line : String) : Option Statement := do
  let id ← NodeId.read first
  let inside ← line.toList.dropPrefix? (first ++ " [label" ++ beforeLabel id).toList
  let (label, rest) ← quoted inside
  if rest = (afterLabel id).toList then some (.node id (String.ofList label)) else none

/-- Reads a line after the head of a graph. -/
def readStatement (line : String) : Option Statement :=
  match words line with
  | first :: second :: rest =>
    if second = "->" then readArrow first rest
    else if first = "subgraph" then readCluster second
    else readNode first line
  | _ => if line = "\x7d" then some .close else none

/-- A node is read back from its line, with its label. -/
theorem readNode_text (id : NodeId) (label : String) :
    readNode id.text ((Statement.node id label).text true) = some (.node id label) := by
  have inside := List.dropPrefix?_append_of_beq
    (label.toList.flatMap escapeChar ++ '"' :: (afterLabel id).toList)
    (beq_self_eq_true (id.text ++ " [label" ++ beforeLabel id).toList)
  simp only [readNode, NodeId.read_text, toList_node, inside, quoted_escape, Option.bind_eq_bind,
    Option.bind_some, if_true, String.ofList_toList]

/-- A statement is read back from its line. -/
theorem readStatement_text {one : Statement} (inner : one.Inner) :
    readStatement (one.text true) = some one := by
  unfold readStatement
  cases inner with
  | anchor role id =>
    have own : roleOf? role.anchor = some role := by cases role <;> rfl
    simp only [words_anchor, if_true, readArrow, own, NodeId.read_text]
    rfl
  | openCluster id =>
    have name : ("cluster_" ++ id.text).toList.dropPrefix? "cluster_".toList =
        some id.text.toList := by
      rw [String.toList_append]
      exact List.dropPrefix?_append_of_beq _ (beq_self_eq_true _)
    have arrow : "cluster_" ++ id.text ≠ "->" := Text.append_ne (by decide) _
    simp only [words_openCluster, if_neg arrow, if_true, readCluster, name, Option.bind_eq_bind,
      Option.bind_some, String.ofList_toList, NodeId.read_text]
    rfl
  | node id label =>
    obtain ⟨more, others, found⟩ := words_node id label
    have arrow : "[label" ++ more ≠ "->" := Text.append_ne (by decide) _
    have cluster : id.text ≠ "subgraph" := by
      intro same
      have inside : 'u' ∈ id.text.toList := by
        rw [same]
        decide
      exact id.not_mem_text (by decide) inside
    simp only [found, if_neg arrow, if_neg cluster, readNode_text]
  | edge source target =>
    have plain : roleOf? source.text = none := by
      rw [roleOf?, if_neg (source.text_ne_anchor .call), if_neg (source.text_ne_anchor .stream)]
    simp only [words_edge, if_true, readArrow, plain, NodeId.read_text]
    rfl
  | close =>
    simp only [words_close]
    rfl

/-! ## Trees -/

/-- Reads the trees of the children of a node, the first of which has an index, up to the statement
that is no edge to the next child. What is left is never longer than what was given; that is looked
at so that the reading is seen to end. -/
def readForest (id : NodeId) (index : Nat) (all : List Statement) :
    Option (List Tree × List Statement) :=
  match all with
  | .edge source target :: .node named label :: rest =>
    if source = id ∧ target = id.child index ∧ named = target then do
      let (children, left) ← readForest target 0 rest
      if left.length ≤ rest.length then
        let (others, left) ← readForest id (index + 1) left
        return (⟨← Kind.read label, children⟩ :: others, left)
      else none
    else some ([], all)
  | _ => some ([], all)
termination_by all.length

/-- Reads the name and the tree of an entry. The entry has the tree for its only child. -/
def readBody (id : NodeId) : List Statement → Option (Entry × List Statement)
  | .node named name :: rest => do
    let (trees, left) ← readForest id 0 rest
    match trees with
    | [tree] => if named = id then some (⟨name, tree⟩, left) else none
    | _ => none
  | _ => none

/-- Reads an entry behind the edge that leads to it. A call stands in its cluster. -/
def readEntry (role : Role) (id : NodeId) (all : List Statement) :
    Option (Entry × List Statement) :=
  match role, all with
  | .call, .openCluster named :: rest => do
    let (entry, left) ← readBody id rest
    match left with
    | .close :: left => if named = id then some (entry, left) else none
    | _ => none
  | .call, _ => none
  | .stream, _ => readBody id all

/-- Reads the entries of a role, the first of which has an index. -/
def readEntries (role : Role) (index : Nat) (all : List Statement) :
    Option (List Entry × List Statement) :=
  match all with
  | .anchor named id :: rest =>
    if named = role ∧ id = .entry role index then do
      let (entry, left) ← readEntry role id rest
      if left.length ≤ rest.length then
        let (others, left) ← readEntries role (index + 1) left
        return (entry :: others, left)
      else none
    else some ([], all)
  | _ => some ([], all)
termination_by all.length

/-- Reads the statements after the head of a graph. -/
def readDocument (all : List Statement) : Option Document := do
  let (calls, left) ← readEntries .call 0 all
  let (streams, left) ← readEntries .stream 0 left
  if left = [.close] then some ⟨calls, streams⟩ else none

/-- Statements that do not go on with an edge from a node so deep or deeper. -/
def Ends (depth : Nat) (rest : List Statement) : Prop :=
  ∀ source target others, rest = .edge source target :: others → source.depth < depth

/-- The children of a node end where no edge leads on from it. -/
theorem readForest_end {id : NodeId} {rest : List Statement} (ends : Ends id.depth rest)
    (index : Nat) : readForest id index rest = some ([], rest) := by
  unfold readForest
  split
  · rename_i source target named label others
    have other : ¬(source = id ∧ target = id.child index ∧ named = target) := by
      rintro ⟨rfl, -⟩
      exact absurd (ends source target _ rfl) (Nat.lt_irrefl _)
    rw [if_neg other]
  · rfl

/-- The children of a node are read back from their statements. -/
theorem readForest_statements {forest : List Tree} {id : NodeId} {rest : List Statement}
    (ends : Ends id.depth rest) (index : Nat) :
    readForest id index (forestStatements id index forest ++ rest) =
      some (Tree.forestLossy forest, rest) := by
  induction forest using Tree.forest_induction generalizing id index rest with
  | nil => exact readForest_end ends index
  | cons kind children others below behind =>
    have deeper := id.depth_child index
    -- The children of the first tree end at the edge to the next tree, or where this forest ends.
    have inner : Ends (id.child index).depth
        (forestStatements id (index + 1) others ++ rest) := by
      intro source target more begins
      cases others with
      | nil =>
        have above := ends source target more begins
        omega
      | cons =>
        cases begins
        omega
    have shorter : (forestStatements id (index + 1) others ++ rest).length ≤
        (forestStatements (id.child index) 0 children
          ++ (forestStatements id (index + 1) others ++ rest)).length := by
      simp only [List.length_append]
      omega
    have whole : forestStatements id index (⟨kind, children⟩ :: others) ++ rest =
        .edge id (id.child index) :: .node (id.child index) kind.label ::
          (forestStatements (id.child index) 0 children
            ++ (forestStatements id (index + 1) others ++ rest)) := by
      simp only [forestStatements, treeStatements, List.cons_append, List.append_assoc]
    rw [whole, readForest, if_pos ⟨rfl, rfl, rfl⟩, below inner]
    simp only [Option.bind_eq_bind, Option.bind_some, if_pos shorter, behind ends,
      Kind.read_label]
    rfl

/-! ## Entries -/

/-- The name and the tree of an entry are read back. -/
theorem readBody_statements {id : NodeId} {rest : List Statement} (ends : Ends id.depth rest)
    (entry : Entry) : readBody id (entryBody id entry ++ rest) = some (entry.lossy, rest) := by
  rw [entryBody_eq, List.cons_append, readBody, readForest_statements ends]
  simp only [Tree.forestLossy, Option.bind_eq_bind, Option.bind_some, if_true]
  rfl

/-- Statements that do not go on with an edge or with an entry of a role. -/
def Leaves (role : Role) (rest : List Statement) : Prop :=
  (∀ depth, Ends depth rest) ∧ ∀ id others, rest ≠ .anchor role id :: others

/-- No edge is left before the entries of a role. -/
theorem ends_entries {role : Role} {rest : List Statement} (closed : ∀ depth, Ends depth rest)
    (index : Nat) (entries : List Entry) (depth : Nat) :
    Ends depth (entriesStatements role index entries ++ rest) := by
  cases entries with
  | nil => exact closed depth
  | cons entry others =>
    intro source target more begins
    cases role <;> cases begins

/-- An entry is read back behind the edge that leads to it. -/
theorem readEntry_statements {role : Role} {index : Nat} {entry : Entry} {rest : List Statement}
    (closed : ∀ depth, Ends depth rest) : ∃ own,
    entryStatements role index entry ++ rest = .anchor role (.entry role index) :: (own ++ rest) ∧
      readEntry role (.entry role index) (own ++ rest) = some (entry.lossy, rest) := by
  cases role with
  | call =>
    refine ⟨.openCluster (.entry .call index) :: (entryBody (.entry .call index) entry ++ [.close]),
      rfl, ?_⟩
    have brace (depth : Nat) : Ends depth (.close :: rest) := by
      intro source target others begins
      cases begins
    rw [List.cons_append, List.append_assoc, List.singleton_append, readEntry,
      readBody_statements (brace _)]
    simp only [Option.bind_eq_bind, Option.bind_some, if_true]
  | stream =>
    refine ⟨entryBody (.entry .stream index) entry, rfl, ?_⟩
    rw [readEntry, readBody_statements (closed _)]

/-- The entries of a role are read back. -/
theorem readEntries_statements {role : Role} {rest : List Statement} (leaves : Leaves role rest)
    (index : Nat) (entries : List Entry) :
    readEntries role index (entriesStatements role index entries ++ rest) =
      some (entries.map Entry.lossy, rest) := by
  induction entries generalizing index with
  | nil =>
    rw [entriesStatements, List.nil_append]
    unfold readEntries
    split
    · rename_i named id others
      have other : ¬(named = role ∧ id = .entry role index) := by
        rintro ⟨rfl, -⟩
        exact leaves.2 id others rfl
      rw [if_neg other]
      rfl
    · rfl
  | cons entry others ih =>
    obtain ⟨own, begins, read⟩ := readEntry_statements
      (ends_entries leaves.1 (index + 1) others : ∀ depth, Ends depth _)
    have shorter : (entriesStatements role (index + 1) others ++ rest).length ≤
        (own ++ (entriesStatements role (index + 1) others ++ rest)).length := by
      simp only [List.length_append]
      omega
    rw [entriesStatements, List.append_assoc, begins, readEntries, if_pos ⟨rfl, rfl⟩, read]
    simp only [Option.bind_eq_bind, Option.bind_some, if_pos shorter, ih]
    rfl

/-- A document is read back from its statements, as far as the labels show it. -/
theorem readDocument_body (document : Document) :
    readDocument (body document) = some document.lossy := by
  have graph : Leaves .stream [.close] := by
    constructor
    · intro depth source target others begins
      cases begins
    · intro id others begins
      cases begins
  have streams : Leaves .call (entriesStatements .stream 0 document.streams ++ [.close]) := by
    constructor
    · exact ends_entries graph.1 0 document.streams
    · intro id others begins
      cases found : document.streams with
      | nil =>
        rw [found] at begins
        cases begins
      | cons =>
        rw [found] at begins
        cases begins
  rw [body, List.append_assoc, readDocument, readEntries_statements streams]
  simp only [Option.bind_eq_bind, Option.bind_some, readEntries_statements graph, if_true]
  rfl

/-! ## Texts -/

/-- Reads the name out of the line of the root. -/
def readRoot (line : String) : Option String := do
  let name ← line.toList.dropSuffix? " -> \x7b streams  calls \x7d".toList
  return String.ofList name

/-- Reads the bytes of a graph with escaped labels: the name of its root and its document. -/
def read (bytes : Bytes) : Option (String × Document) := do
  let text ← (Utf8.decode bytes).toOption
  match lines text with
  | graph :: rank :: root :: blank :: rest =>
    if graph = "digraph G \x7b" ∧ rank = "newrank=\"true\"" ∧ blank = "" then do
      return (← readRoot root, ← readDocument (← rest.mapM readStatement))
    else none
  | _ => none

/-- The statements after the head are read back from their lines. -/
theorem mapM_readStatement {all : List Statement} (inner : ∀ one ∈ all, one.Inner) :
    (all.map (·.text true)).mapM readStatement = some all := by
  induction all with
  | nil => rfl
  | cons one rest ih =>
    rw [List.map_cons, List.mapM_cons, readStatement_text (inner one List.mem_cons_self),
      ih fun other inside => inner other (List.mem_cons_of_mem _ inside)]
    rfl

/-- The name of the root and the document are read back from the bytes of a graph. -/
theorem read_bytes (document : Document) {name : String} (oneLine : '\n' ∉ name.toList) :
    read (render true document name).bytes = some (name, document.lossy) := by
  have root : readRoot (name ++ " -> \x7b streams  calls \x7d") = some name := by
    have found : (name ++ " -> \x7b streams  calls \x7d").toList.dropSuffix?
        " -> \x7b streams  calls \x7d".toList = some name.toList :=
      List.dropSuffix?_eq_some_iff.2 ⟨_, String.toList_append, beq_self_eq_true _⟩
    rw [readRoot, found, Option.bind_eq_bind, Option.bind_some, String.ofList_toList]
    rfl
  have statements : ((body document).map (·.text true)).mapM readStatement = some (body document) :=
    mapM_readStatement fun _ => inner_of_mem_body
  rw [bytes_render, read, Utf8.decode_encode]
  simp only [Except.toOption, Option.bind_eq_bind, Option.bind_some, lines_graphText _ oneLine,
    and_self, if_true, root, statements, readDocument_body]
  rfl

/-- A graph with escaped labels can be read back. For every document and every name of one line,
reading the bytes gives the name and the document, with the text of each error as its label shows
it. So graphs with the same bytes have the same name and, as far as labels show them, the same
document. -/
theorem read_back (document : Document) (name : String) (oneLine : '\n' ∉ name.toList) :
    read (render true document name).bytes = some (name, document.lossy) ∧
      ∀ (other : Document) (title : String), '\n' ∉ title.toList →
        (render true document name).bytes = (render true other title).bytes →
          name = title ∧ document.lossy = other.lossy := by
  refine ⟨read_bytes document oneLine, ?_⟩
  intro other title single same
  have both := read_bytes other single
  rw [← same, read_bytes document oneLine, Option.some.injEq, Prod.mk.injEq] at both
  exact both

/-- A document whose names look like statements, with an error that is not UTF-8. -/
def misleading : Document where
  calls := [⟨"a\"]\nc0 -> c0v0\n\x7d", ⟨.error [0x29, 0xFF, 0x22], [⟨.node (.unknown (-3)), []⟩]⟩⟩]
  streams := [⟨"", ⟨.bool true, [⟨.node (.known .uint64), []⟩, ⟨.uint64 10, []⟩]⟩⟩]

theorem read_back_misleading :
    '\n' ∉ "x -> y [label".toList ∧
      read (render true misleading "x -> y [label").bytes = some ("x -> y [label",
        { misleading with
          calls := [⟨"a\"]\nc0 -> c0v0\n\x7d",
            ⟨.error (Utf8.encode ")\uFFFD\""), [⟨.node (.unknown (-3)), []⟩]⟩⟩] }) := by
  have single : '\n' ∉ "x -> y [label".toList := by decide
  refine ⟨single, (read_back misleading "x -> y [label" single).1.trans ?_⟩
  rfl

end AstView.Dot

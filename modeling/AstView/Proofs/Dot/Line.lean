import AstView.Dot
import AstView.Proofs.Document
import AstView.Proofs.Dot.Label
import AstView.Proofs.NodeId
import AstView.Proofs.Utf8

/-!
# The lines of a graph

With a name of one line for the root, and labels that are escaped or of one line, every statement of
a graph is a line of its own, and the root has an empty one behind it. Each line has the words of
its statement.
-/
namespace AstView.Dot

open Text (words lines)

/-- The statements after the root. -/
def body (document : Document) : List Statement :=
  entriesStatements .call 0 document.calls ++ entriesStatements .stream 0 document.streams
    ++ [.close]

/-- An entry is its node and the tree below it. -/
theorem entryBody_eq (id : NodeId) (entry : Entry) :
    entryBody id entry = .node id entry.name :: forestStatements id 0 [entry.tree] := by
  simp only [entryBody, forestStatements, List.append_nil]

/-- The statements that stand after the root. -/
inductive Statement.Inner : Statement → Prop where
  | anchor (role : Role) (id : NodeId) : Inner (.anchor role id)
  | openCluster (id : NodeId) : Inner (.openCluster id)
  | node (id : NodeId) (label : String) : Inner (.node id label)
  | edge (source target : NodeId) : Inner (.edge source target)
  | close : Inner .close

theorem inner_of_mem_forest {forest : List Tree} {id : NodeId} {index : Nat} {one : Statement}
    (inside : one ∈ forestStatements id index forest) : one.Inner := by
  induction forest using Tree.forest_induction generalizing id index with
  | nil => cases inside
  | cons kind children rest below behind =>
    rw [forestStatements, treeStatements, List.cons_append, List.mem_cons, List.mem_cons,
      List.mem_append] at inside
    obtain rfl | rfl | child | other := inside
    · exact .edge _ _
    · exact .node _ _
    · exact below child
    · exact behind other

theorem inner_of_mem_entry {role : Role} {index : Nat} {entry : Entry} {one : Statement}
    (inside : one ∈ entryStatements role index entry) : one.Inner := by
  cases role with
  | call =>
    simp only [entryStatements, entryBody_eq, List.cons_append, List.mem_cons, List.mem_append,
      List.not_mem_nil, or_false] at inside
    obtain rfl | rfl | rfl | tree | rfl := inside
    · exact .anchor _ _
    · exact .openCluster _
    · exact .node _ _
    · exact inner_of_mem_forest tree
    · exact .close
  | stream =>
    simp only [entryStatements, entryBody_eq, List.mem_cons] at inside
    obtain rfl | rfl | tree := inside
    · exact .anchor _ _
    · exact .node _ _
    · exact inner_of_mem_forest tree

theorem inner_of_mem_entries {role : Role} {index : Nat} {entries : List Entry} {one : Statement}
    (inside : one ∈ entriesStatements role index entries) : one.Inner := by
  induction entries generalizing index with
  | nil => cases inside
  | cons entry rest ih =>
    rw [entriesStatements, List.mem_append] at inside
    obtain own | other := inside
    · exact inner_of_mem_entry own
    · exact ih other

theorem inner_of_mem_body {document : Document} {one : Statement} (inside : one ∈ body document) :
    one.Inner := by
  rw [body, List.mem_append, List.mem_append, List.mem_singleton] at inside
  obtain (call | stream) | rfl := inside
  · exact inner_of_mem_entries call
  · exact inner_of_mem_entries stream
  · exact .close

/-! ## Lines -/

/-- The text of a graph is the texts of its statements, with a newline behind each. -/
def graphText (escape : Bool) (document : Document) (name : String) : String :=
  String.join (((statements document name).map (·.text escape)).map (· ++ "\n"))

/-- The pieces of a statement make up its text and a newline. -/
theorem join_pieces (escape : Bool) (one : Statement) :
    String.join (one.pieces escape) = one.text escape ++ "\n" := by
  rw [Statement.pieces, String.join_cons, String.join_cons, String.join_nil, String.append_empty]

/-- The bytes of a graph are those of its text. -/
theorem bytes_render (escape : Bool) (document : Document) (name : String) :
    (render escape document name).bytes = Utf8.encode (graphText escape document name) := by
  rw [render, Rendering.bytes, ← Utf8.encode_join, Text.join_flatMap (join_pieces escape),
    graphText]

/-- A statement after the root stays on its line if the label that it shows does. -/
theorem newline_not_mem_of_label {escape : Bool} {one : Statement} (inner : one.Inner)
    (flat : ∀ id label, one = .node id label →
      '\n' ∉ (if escape then escapeLabel label else label).toList) :
    '\n' ∉ (one.text escape).toList := by
  have plain (id : NodeId) : '\n' ∉ id.text.toList := id.not_mem_text (by decide)
  cases inner with
  | anchor role id =>
    have anchor : '\n' ∉ role.anchor.toList := by cases role <;> decide
    change '\n' ∉ (role.anchor ++ " -> " ++ id.text).toList
    simp [anchor, plain]
  | openCluster id =>
    change '\n' ∉ ("subgraph cluster_" ++ id.text ++ " \x7b").toList
    simp [plain]
  | node id label =>
    have around {text : String} (shown : '\n' ∉ text.toList) :
        '\n' ∉ (id.text ++ " [" ++ attributes id text ++ "]").toList := by
      cases id with
      | entry role index => cases role <;> simp [attributes, plain, shown]
      | value role index path => simp [attributes, plain, shown]
    exact around (flat id label rfl)
  | edge source target =>
    change '\n' ∉ (source.text ++ " -> " ++ target.text).toList
    simp [plain]
  | close =>
    change '\n' ∉ "\x7d".toList
    decide

/-- A statement after the root stays on its line if labels are escaped. -/
theorem newline_not_mem_text {one : Statement} (inner : one.Inner) :
    '\n' ∉ (one.text true).toList :=
  newline_not_mem_of_label inner fun _ label _ => newline_not_mem_escapeLabel label

/-- The lines of a graph: its head of four lines and a line for every other statement. -/
theorem lines_of_flat {escape : Bool} {document : Document}
    (flat : ∀ one ∈ body document, '\n' ∉ (one.text escape).toList) {name : String}
    (oneLine : '\n' ∉ name.toList) :
    lines (graphText escape document name) =
      "digraph G \x7b" :: "newrank=\"true\"" :: (name ++ " -> \x7b streams  calls \x7d") :: ""
        :: (body document).map (·.text escape) := by
  have single {text : String} (whole : '\n' ∉ text.toList) :
      (text.toList.splitOn '\n').map String.ofList = [text] := by
    rw [List.splitOn_eq_singleton whole, List.map_singleton, String.ofList_toList]
  have own : ∀ one ∈ body document, ((one.text escape).toList.splitOn '\n').map String.ofList =
      [one.text escape] := fun one inside => single (flat one inside)
  have graph : ((Statement.openGraph.text escape).toList.splitOn '\n').map String.ofList =
      ["digraph G \x7b"] := single (by decide : '\n' ∉ "digraph G \x7b".toList)
  have rank : ((Statement.newRank.text escape).toList.splitOn '\n').map String.ofList =
      ["newrank=\"true\""] := single (by decide : '\n' ∉ "newrank=\"true\"".toList)
  -- The newline in the text of the root leaves an empty line behind it.
  have root : (((Statement.root name).text escape).toList.splitOn '\n').map String.ofList =
      [name ++ " -> \x7b streams  calls \x7d", ""] := by
    have chars : ((Statement.root name).text escape).toList =
        (name ++ " -> \x7b streams  calls \x7d").toList ++ '\n' :: [] := by
      change (name ++ " -> \x7b streams  calls \x7d\n").toList = _
      rw [String.toList_append, String.toList_append, List.append_assoc]
      rfl
    have whole : '\n' ∉ (name ++ " -> \x7b streams  calls \x7d").toList := by simp [oneLine]
    rw [chars, List.splitOn_append_cons_self_of_not_mem whole, List.map_cons, String.ofList_toList]
    rfl
  have all : statements document name = .openGraph :: .newRank :: .root name :: body document := rfl
  rw [graphText, Text.lines_join, List.flatMap_map, all, List.flatMap_cons, List.flatMap_cons,
    List.flatMap_cons, List.flatMap_congr own, ← List.map_eq_flatMap, graph, rank, root]
  rfl

/-- Escaped labels are in no way of the lines of a graph. -/
theorem lines_graphText (document : Document) {name : String} (oneLine : '\n' ∉ name.toList) :
    lines (graphText true document name) =
      "digraph G \x7b" :: "newrank=\"true\"" :: (name ++ " -> \x7b streams  calls \x7d") :: ""
        :: (body document).map (·.text true) :=
  lines_of_flat (fun _ inside => newline_not_mem_text (inner_of_mem_body inside)) oneLine

/-! ## Words -/

/-- What stands behind the word `label` before the quotes of a label. -/
def beforeLabel : NodeId → String
  | .entry .call _ => " =\""
  | _ => "=\""

/-- What stands behind the quotes of a label. -/
def afterLabel : NodeId → String
  | .entry _ _ => ", shape=\"box\"]"
  | .value _ _ _ => "]"

/-- The text of a node around the label that it shows. -/
theorem toList_shown (escape : Bool) (id : NodeId) (label : String) :
    ((Statement.node id label).text escape).toList =
      (id.text ++ " [label" ++ beforeLabel id).toList ++
        ((if escape then escapeLabel label else label).toList ++
          '"' :: (afterLabel id).toList) := by
  have around (text : String) : (id.text ++ " [" ++ attributes id text ++ "]").toList =
      (id.text ++ " [label" ++ beforeLabel id).toList ++
        (text.toList ++ '"' :: (afterLabel id).toList) := by
    cases id with
    | entry role index =>
      cases role <;>
      · simp only [attributes, beforeLabel, afterLabel, String.toList_append, List.append_assoc]
        rfl
    | value role index path =>
      simp only [attributes, beforeLabel, afterLabel, String.toList_append, List.append_assoc]
      rfl
  exact around _

/-- The text of a node around its escaped label. -/
theorem toList_node (id : NodeId) (label : String) :
    ((Statement.node id label).text true).toList =
      (id.text ++ " [label" ++ beforeLabel id).toList ++
        (label.toList.flatMap escapeChar ++ '"' :: (afterLabel id).toList) := by
  rw [toList_shown, if_pos rfl, toList_escapeLabel]

/-- The three words of an arrow. -/
theorem words_arrow {source target : String} (start : ' ' ∉ source.toList)
    (stop : ' ' ∉ target.toList) : words (source ++ " -> " ++ target) = [source, "->", target] := by
  have whole : source ++ " -> " ++ target = source ++ " " ++ ("->" ++ " " ++ target) := by
    simp [← String.toList_inj]
  rw [whole, Text.words_space start, Text.words_space (by decide), Text.words_word stop]

section
variable (role : Role) (id source target : NodeId) (label : String)

theorem words_anchor :
    words ((Statement.anchor role id).text true) = [role.anchor, "->", id.text] := by
  have anchor : ' ' ∉ role.anchor.toList := by cases role <;> decide
  exact words_arrow anchor (id.not_mem_text (by decide))

theorem words_edge :
    words ((Statement.edge source target).text true) = [source.text, "->", target.text] :=
  words_arrow (source.not_mem_text (by decide)) (target.not_mem_text (by decide))

theorem words_openCluster :
    words ((Statement.openCluster id).text true) = ["subgraph", "cluster_" ++ id.text, "\x7b"] := by
  have plain : ' ' ∉ id.text.toList := id.not_mem_text (by decide)
  have cluster : ' ' ∉ ("cluster_" ++ id.text).toList := by simp [plain]
  have whole : (Statement.openCluster id).text true =
      "subgraph" ++ " " ++ (("cluster_" ++ id.text) ++ " " ++ "\x7b") := by
    change "subgraph cluster_" ++ id.text ++ " \x7b" = _
    simp [← String.toList_inj]
  rw [whole, Text.words_space (by decide), Text.words_space cluster, Text.words_word (by decide)]

theorem words_close : words (Statement.close.text true) = ["\x7d"] :=
  Text.words_word (by decide)

/-- A node is its identifier and, behind a space, its label. -/
theorem words_node : ∃ more others,
    words ((Statement.node id label).text true) = id.text :: ("[label" ++ more) :: others := by
  have plain : ' ' ∉ "[label".toList := by decide
  obtain ⟨more, others, found⟩ := Text.words_append plain
    (beforeLabel id ++ (escapeLabel label ++ ("\"" ++ afterLabel id)))
  have whole : (Statement.node id label).text true = id.text ++ " " ++
      ("[label" ++ (beforeLabel id ++ (escapeLabel label ++ ("\"" ++ afterLabel id)))) := by
    rw [← String.toList_inj, toList_node]
    simp only [String.toList_append, List.append_assoc, toList_escapeLabel]
    rfl
  exact ⟨more, others, by rw [whole, Text.words_space (id.not_mem_text (by decide)), found]⟩

end

end AstView.Dot

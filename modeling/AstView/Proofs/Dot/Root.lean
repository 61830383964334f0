import AstView.FilePath
import AstView.Proofs.Dot.Declaration
import AstView.Proofs.Dot.Grammar
import AstView.Proofs.Dot.Graph

/-!
# The root of a graph

The name of the root stands in the graph as it is. If it is an identifier, a graph with escaped
labels is well-formed: every statement is cut into its tokens (`scans_text`) and read as an item
(`reads_tokens`), and the clusters of the calls are closed (`nests_body`). The edges of the root
lead to the nodes of the roles, and the others to the entries and values. So an edge leads to the
root exactly if its name is that of one of those nodes (`root_stands`); nothing in the way the name
is made prevents that, nor that it is no identifier (`root_unfit`).
-/
namespace AstView

/-! ## Identifiers of nodes -/

namespace NodeId

/-- The identifier of a node is a letter, and then digits and letters. -/
theorem text_shape (id : NodeId) : ∃ role digit more, id.text.toList = front role :: digit :: more ∧
    digit.isDigit = true := by
  have digits (index : Nat) : ∃ digit more, (toString index).toList = digit :: more ∧
      digit.isDigit = true := by
    have some : (toString index).toList ≠ [] := by
      rw [Nat.toString_eq_repr, Nat.toList_repr]
      exact Nat.toDigits_ne_nil
    obtain ⟨digit, more, whole⟩ := List.exists_cons_of_ne_nil some
    exact ⟨digit, more, whole, Text.isDigit_decimal (whole ▸ List.mem_cons_self)⟩
  cases id with
  | entry role index =>
    obtain ⟨digit, more, whole, own⟩ := digits index
    exact ⟨role, digit, more, by rw [toList_entry, whole], own⟩
  | value role index path =>
    obtain ⟨digit, more, whole, own⟩ := digits index
    exact ⟨role, digit, more ++ 'v' :: '0' :: steps path, by rw [toList_value, whole]; rfl, own⟩

end NodeId

namespace Dot

/-- A name with a digit in it is no keyword. -/
theorem isKeyword_of_digit {chars : List Char} {digit : Char} (inside : digit ∈ chars)
    (own : digit.isDigit = true) : isKeyword chars = false := by
  have letters : ∀ keyword ∈ keywords, ∀ char ∈ keyword.toList, char.isDigit = false := by
    simp [keywords]
  apply isKeyword_eq_false inside
  intro keyword member found
  have same : digit.toLower = digit := by
    have small : digit.toNat ≤ 57 := (Char.isDigit_iff_toNat.1 own).2
    apply dif_neg
    rintro ⟨upper, -⟩
    have large : 65 ≤ digit.toNat := UInt32.le_iff_toNat_le.1 upper
    omega
  rw [same] at found
  have letter := letters keyword member digit found
  rw [own] at letter
  cases letter

/-- A name goes on with any character of the identifier of a node. -/
theorem isNameChar_of_mem_text (id : NodeId) {char : Char} (inside : char ∈ id.text.toList) :
    isNameChar char = true := by
  obtain digit | rfl | rfl | rfl := NodeId.mem_text inside
  · simp [isNameChar, digit]
  · decide
  · decide
  · decide

/-- The identifier of a node is a name, and no keyword. -/
theorem isIdentifier_text (id : NodeId) : isIdentifier id.text = true := by
  obtain ⟨role, digit, more, whole, own⟩ := id.text_shape
  have first : isNameStart (NodeId.front role) = true := by cases role <;> decide
  have others : ∀ char ∈ digit :: more, isNameChar char = true := fun char inside =>
    isNameChar_of_mem_text id (whole ▸ List.mem_cons_of_mem _ inside)
  have plain : isKeyword (NodeId.front role :: digit :: more) = false :=
    isKeyword_of_digit (List.mem_cons_of_mem _ List.mem_cons_self) own
  rw [isIdentifier, whole, plain, isName, first, List.all_eq_true.2 others]
  rfl

/-- What can stand for a node is a word. -/
theorem isWord_of_isIdentifier {text : String} (legal : isIdentifier text = true) :
    isWord text.toList = true := by
  rw [isIdentifier, Bool.and_eq_true] at legal
  exact legal.1

/-- The name of a cluster is an identifier too. -/
theorem isIdentifier_cluster (id : NodeId) : isIdentifier ("cluster_" ++ id.text) = true := by
  have chars : ("cluster_" ++ id.text).toList = 'c' :: ("luster_".toList ++ id.text.toList) := by
    rw [String.toList_append]
    rfl
  have others : ∀ char ∈ "luster_".toList ++ id.text.toList, isNameChar char = true := by
    have own : ∀ char ∈ "luster_".toList, isNameChar char = true := List.all_eq_true.1 rfl
    exact fun char inside => (List.mem_append.1 inside).elim (own char) (isNameChar_of_mem_text id)
  have plain : isKeyword ('c' :: ("luster_".toList ++ id.text.toList)) = false := by
    apply isKeyword_eq_false (by simp : '_' ∈ _)
    decide
  rw [isIdentifier, chars, plain, isName, List.all_eq_true.2 others]
  rfl

/-! ## Tokens -/

/-- The tokens behind the label of a node. -/
def tokensBehind : NodeId → List Token
  | .entry _ _ => [.mark ',', .word "shape", .mark '=', .quoted "box", .mark ']']
  | .value _ _ _ => [.mark ']']

/-- The tokens of a statement. -/
def Statement.tokens : Statement → List Token
  | openGraph => [.word "digraph", .word "G", .mark '\x7b']
  | newRank => [.word "newrank", .mark '=', .quoted "true"]
  | root name =>
    [.word name, .arrow, .mark '\x7b', .word "streams", .word "calls", .mark '\x7d']
  | anchor role id => [.word role.anchor, .arrow, .word id.text]
  | openCluster id => [.word "subgraph", .word ("cluster_" ++ id.text), .mark '\x7b']
  | node id label =>
    .word id.text :: .mark '[' :: .word "label" :: .mark '=' :: .quoted label :: tokensBehind id
  | edge source target => [.word source.text, .arrow, .word target.text]
  | close => [.mark '\x7d']

/-- An arrow between two words is cut into three tokens. -/
theorem scans_between {source target : String} (start : isIdentifier source = true)
    (stop : isIdentifier target = true) :
    Scans (source ++ " -> " ++ target ++ "\n").toList [.word source, .arrow, .word target] := by
  have chars : (source ++ " -> " ++ target ++ "\n").toList =
      source.toList ++ ' ' :: '-' :: '>' :: ' ' :: (target.toList ++ ['\n']) := by simp
  have last : Scans (target.toList ++ ['\n']) [.word target] :=
    .word (isWord_of_isIdentifier stop) (by decide) (.blank (by decide) .nil)
  rw [chars]
  exact .word (isWord_of_isIdentifier start) (by decide)
    (.blank (by decide) (.arrow (.blank (by decide) last)))

/-- What is behind the quotes of a label is cut into its tokens. -/
theorem scans_behind (id : NodeId) :
    Scans ((afterLabel id).toList ++ ['\n']) (tokensBehind id) := by
  have newline : Scans ['\n'] [] := .blank (by decide) .nil
  have bracket : Scans [']', '\n'] [.mark ']'] := .mark (by decide) newline
  cases id with
  | entry role index =>
    have box := Scans.mark (by decide : '=' ∈ marks) (Scans.quoted "box".toList bracket)
    have shape := Scans.word (by decide : isWord "shape".toList = true) (by decide) box
    have comma := Scans.mark (by decide : ',' ∈ marks) (.blank (by decide : ' ' ∈ blanks) shape)
    simpa [afterLabel, tokensBehind, escapeChar] using comma
  | value role index path => simpa [afterLabel, tokensBehind] using bracket

/-- A node is cut into its identifier and its attributes. -/
theorem scans_node (id : NodeId) (label : String) :
    Scans ((Statement.node id label).text true ++ "\n").toList
      (Statement.node id label).tokens := by
  have quotes := Scans.quoted label.toList (scans_behind id)
  have equals := Scans.mark (by decide : '=' ∈ marks) quotes
  have name {char : Char} {chars : List Char} {tokens : List Token}
      (ends : isWordChar char = false) (behind : Scans (char :: chars) tokens) :
      Scans (id.text.toList ++ ' ' :: '[' :: ("label".toList ++ char :: chars))
        (.word id.text :: .mark '[' :: .word "label" :: tokens) := by
    have label := Scans.word (by decide : isWord "label".toList = true) ends behind
    exact .word (isWord_of_isIdentifier (isIdentifier_text id)) (by decide)
      (.blank (by decide) (.mark (by decide) label))
  rw [String.toList_append, toList_node]
  rw [String.ofList_toList] at equals
  -- Only the label of a call has a blank before its equals sign.
  match id with
  | .entry .call index =>
    have whole := name (by decide) (.blank (by decide : ' ' ∈ blanks) equals)
    simpa [beforeLabel, Statement.tokens] using whole
  | .entry .stream index =>
    have whole := name (by decide) equals
    simpa [beforeLabel, Statement.tokens] using whole
  | .value role index path =>
    have whole := name (by decide) equals
    simpa [beforeLabel, Statement.tokens] using whole

/-- The root is cut into its name, an arrow and the group of the nodes of the roles. -/
theorem scans_root {name : String} (legal : isIdentifier name = true) :
    Scans ((Statement.root name).text true ++ "\n").toList (Statement.root name).tokens := by
  have chars : ((Statement.root name).text true ++ "\n").toList =
      name.toList ++ ' ' :: '-' :: '>' :: ' ' :: '\x7b' :: ' ' :: ("streams".toList ++
        ' ' :: ' ' :: ("calls".toList ++ [' ', '\x7d', '\n', '\n'])) := by
    change (name ++ " -> \x7b streams  calls \x7d\n" ++ "\n").toList = _
    simp
  have newlines : Scans ['\n', '\n'] [] := .blank (by decide) (.blank (by decide) .nil)
  have close : Scans [' ', '\x7d', '\n', '\n'] [.mark '\x7d'] :=
    .blank (by decide) (.mark (by decide) newlines)
  have calls := Scans.word (by decide : isWord "calls".toList = true) (by decide) close
  have streams := Scans.word (by decide : isWord "streams".toList = true) (by decide)
    (.blank (by decide : ' ' ∈ blanks) (.blank (by decide : ' ' ∈ blanks) calls))
  rw [chars]
  exact .word (isWord_of_isIdentifier legal) (by decide) (.blank (by decide) (.arrow
    (.blank (by decide) (.mark (by decide) (.blank (by decide) streams)))))

/-- A statement after the root is cut into its tokens. -/
theorem scans_text {one : Statement} (inner : one.Inner) :
    Scans (one.text true ++ "\n").toList one.tokens := by
  have newline : Scans ['\n'] [] := .blank (by decide) .nil
  cases inner with
  | anchor role id =>
    exact scans_between (by cases role <;> decide) (isIdentifier_text id)
  | openCluster id =>
    have chars : ((Statement.openCluster id).text true ++ "\n").toList =
        "subgraph".toList ++ ' ' :: (("cluster_" ++ id.text).toList ++ [' ', '\x7b', '\n']) := by
      change ("subgraph cluster_" ++ id.text ++ " \x7b" ++ "\n").toList = _
      simp
    have brace : Scans [' ', '\x7b', '\n'] [.mark '\x7b'] :=
      .blank (by decide) (.mark (by decide) newline)
    have name := Scans.word (isWord_of_isIdentifier (isIdentifier_cluster id)) (by decide) brace
    rw [chars]
    exact .word (by decide) (by decide) (.blank (by decide) name)
  | node id label => exact scans_node id label
  | edge source target => exact scans_between (isIdentifier_text source) (isIdentifier_text target)
  | close => exact Scans.mark (by decide : '\x7d' ∈ marks) newline

/-- The text of some statements is cut into their tokens if each of them is. -/
theorem scans_join {all : List Statement}
    (each : ∀ one ∈ all, Scans (one.text true ++ "\n").toList one.tokens) :
    Scans (String.join ((all.map (·.text true)).map (· ++ "\n"))).toList
      (all.flatMap Statement.tokens) := by
  induction all with
  | nil => exact .nil
  | cons one rest ih =>
    have own := each one List.mem_cons_self
    have others := ih fun other inside => each other (List.mem_cons_of_mem _ inside)
    simp only [List.map_cons, String.join_cons, String.toList_append, List.flatMap_cons]
    rw [← String.toList_append]
    exact own.append others

/-- The beginning of a graph is cut into its tokens. -/
theorem scans_openGraph :
    Scans (Statement.openGraph.text true ++ "\n").toList Statement.openGraph.tokens := by
  have chars : (Statement.openGraph.text true ++ "\n").toList =
      "digraph".toList ++ ' ' :: ("G".toList ++ [' ', '\x7b', '\n']) := by decide
  have newline : Scans ['\n'] [] := .blank (by decide) .nil
  have brace : Scans [' ', '\x7b', '\n'] [.mark '\x7b'] :=
    .blank (by decide) (.mark (by decide) newline)
  have name := Scans.word (by decide : isWord "G".toList = true) (by decide) brace
  rw [chars]
  exact .word (by decide) (by decide) (.blank (by decide) name)

/-- The setting of a graph is cut into its tokens. -/
theorem scans_newRank :
    Scans (Statement.newRank.text true ++ "\n").toList Statement.newRank.tokens := by
  have chars : (Statement.newRank.text true ++ "\n").toList =
      "newrank".toList ++ '=' :: '"' :: ("true".toList.flatMap escapeChar ++ ['"', '\n']) := by
    decide
  have newline : Scans ['\n'] [] := .blank (by decide) .nil
  have value := Scans.quoted "true".toList newline
  rw [String.ofList_toList] at value
  rw [chars]
  exact .word (by decide) (by decide) (.mark (by decide) value)

/-- A graph whose root has an identifier for a name is cut into the tokens of its statements. -/
theorem lex_graphText (document : Document) {name : String} (legal : isIdentifier name = true) :
    lex (graphText true document name).toList =
      some ((statements document name).flatMap Statement.tokens) := by
  have each : ∀ one ∈ statements document name,
      Scans (one.text true ++ "\n").toList one.tokens := by
    intro one inside
    have split : one ∈ .openGraph :: .newRank :: .root name :: body document := inside
    rw [List.mem_cons, List.mem_cons, List.mem_cons] at split
    obtain rfl | rfl | rfl | inner := split
    · exact scans_openGraph
    · exact scans_newRank
    · exact scans_root legal
    · exact scans_text (inner_of_mem_body inner)
  have done : lex [] = some [] := by rw [lex]
  have whole := scans_join each []
  rw [List.append_nil, done, Option.map_some, List.append_nil] at whole
  exact whole

/-! ## Items -/

/-- The attributes of a node. -/
def attributePairs (label : String) : NodeId → List (String × String)
  | .entry _ _ => [("label", label), ("shape", "box")]
  | .value _ _ _ => [("label", label)]

/-- The item of a statement after the root. -/
def Statement.item? : Statement → Option Item
  | anchor role id => some (.edges role.anchor [id.text])
  | openCluster id => some (.cluster ("cluster_" ++ id.text))
  | node id label => some (.node id.text (attributePairs label id))
  | edge source target => some (.edges source.text [target.text])
  | close => some .close
  | _ => none

/-- An arrow between two words is read as an edge. -/
theorem reads_between {source target : String} (start : isIdentifier source = true)
    (stop : isIdentifier target = true) :
    Reads [.word source, .arrow, .word target] [.edges source [target]] := by
  apply Reads.item
  intro rest
  simp [item?, Token.id?_word start, Token.id?_word stop]

/-- The tokens of a statement after the root are read as its item. -/
theorem reads_tokens {one : Statement} (inner : one.Inner) :
    Reads one.tokens one.item?.toList := by
  cases inner with
  | anchor role id =>
    exact reads_between (by cases role <;> decide) (isIdentifier_text id)
  | openCluster id =>
    apply Reads.item
    intro rest
    simp [item?, Token.beginsCluster, spells, Token.id?_word (isIdentifier_cluster id)]
  | node id label =>
    apply Reads.item
    intro rest
    have own := Token.id?_word (isIdentifier_text id)
    have named : (Token.word "label").id? = some "label" := Token.id?_word (by decide)
    have shaped : (Token.word "shape").id? = some "shape" := Token.id?_word (by decide)
    have text (label : String) : (Token.quoted label).id? = some label := rfl
    cases id <;> simp [item?, tokensBehind, attributes?, own, named, shaped, text, attributePairs]
  | edge source target => exact reads_between (isIdentifier_text source) (isIdentifier_text target)
  | close => exact Reads.item fun rest => rfl

/-- The items of some statements. -/
def itemsOf (all : List Statement) : List Item := all.filterMap Statement.item?

/-- The tokens of statements after the root are read as their items. -/
theorem reads_flatMap {all : List Statement} (inner : ∀ one ∈ all, one.Inner) :
    Reads (all.flatMap Statement.tokens) (itemsOf all) := by
  induction all with
  | nil => exact .nil
  | cons one rest ih =>
    have own := reads_tokens (inner one List.mem_cons_self)
    have others := ih fun other inside => inner other (List.mem_cons_of_mem _ inside)
    have split : itemsOf (one :: rest) = one.item?.toList ++ itemsOf rest := by
      rw [itemsOf, List.filterMap_cons]
      cases one.item? <;> rfl
    rw [List.flatMap_cons, split]
    exact own.append others

/-- Behind the head of a graph there are the setting, the edges of the root and the items of the
other statements. -/
theorem items?_tokens (document : Document) {name : String} (legal : isIdentifier name = true) :
    items? (Statement.newRank.tokens ++ ((Statement.root name).tokens ++
        (body document).flatMap Statement.tokens)) =
      some (.setting "newrank" "true" :: .edges name ["streams", "calls"]
        :: itemsOf (body document)) := by
  have rank : Reads Statement.newRank.tokens [.setting "newrank" "true"] := by
    apply Reads.item
    intro rest
    have own : (Token.word "newrank").id? = some "newrank" := Token.id?_word (by decide)
    have value : (Token.quoted "true").id? = some "true" := rfl
    simp [item?, own, value]
  have root : Reads (Statement.root name).tokens [.edges name ["streams", "calls"]] := by
    apply Reads.item
    intro rest
    have streams : (Token.word "streams").id? = some "streams" := Token.id?_word (by decide)
    have calls : (Token.word "calls").id? = some "calls" := Token.id?_word (by decide)
    simp [item?, group?, Token.id?_word legal, streams, calls]
  have others : Reads ((body document).flatMap Statement.tokens) (itemsOf (body document)) :=
    reads_flatMap fun _ inside => inner_of_mem_body inside
  have done : items? [] = some [] := by rw [items?]
  have whole := rank.append (root.append others) []
  rw [List.append_nil, done, Option.map_some, List.append_nil] at whole
  exact whole

/-! ## Clusters -/

theorem itemsOf_append (first second : List Statement) :
    itemsOf (first ++ second) = itemsOf first ++ itemsOf second := List.filterMap_append

/-- A forest opens and closes no clusters. -/
theorem nests_forest (id : NodeId) (index : Nat) (forest : List Tree) (depth : Nat)
    (rest : List Item) :
    nests (depth + 1) (itemsOf (forestStatements id index forest) ++ rest) =
      nests (depth + 1) rest := by
  induction forest using Tree.forest_induction generalizing id index rest with
  | nil => rfl
  | cons kind children others below behind =>
    rw [forestStatements, treeStatements, List.cons_append]
    change nests (depth + 1) (itemsOf (forestStatements (id.child index) 0 children ++
      forestStatements id (index + 1) others) ++ rest) = _
    rw [itemsOf_append, List.append_assoc, below, behind]

/-- Every cluster of the entries of a role is closed. -/
theorem nests_entries (role : Role) (index : Nat) (entries : List Entry) (depth : Nat)
    (rest : List Item) :
    nests (depth + 1) (itemsOf (entriesStatements role index entries) ++ rest) =
      nests (depth + 1) rest := by
  induction entries generalizing index with
  | nil => rfl
  | cons entry others ih =>
    rw [entriesStatements, itemsOf_append, List.append_assoc]
    cases role with
    | call =>
      simp only [entryStatements, entryBody_eq, List.cons_append]
      change nests (depth + 2) (itemsOf (forestStatements _ 0 [entry.tree] ++ [.close]) ++ _) = _
      rw [itemsOf_append, List.append_assoc, nests_forest]
      exact ih (index + 1)
    | stream =>
      simp only [entryStatements, entryBody_eq]
      change nests (depth + 1) (itemsOf (forestStatements _ 0 [entry.tree]) ++ _) = _
      rw [nests_forest]
      exact ih (index + 1)

/-- The last statement of a graph closes it. -/
theorem nests_body (document : Document) : nests 1 (itemsOf (body document)) = true := by
  rw [body, itemsOf_append, itemsOf_append, List.append_assoc, nests_entries, nests_entries]
  rfl

/-! ## The graph -/

/-- The items of statements after the root declare their nodes. -/
theorem declared_itemsOf (all : List Statement) :
    (itemsOf all).filterMap Item.declared? =
      (all.filterMap Statement.pair?).map (·.1.text) := by
  rw [itemsOf, List.filterMap_filterMap, List.map_filterMap]
  apply List.filterMap_congr
  intro one _
  cases one <;> rfl

/-- The edges of their items lead to the nodes that the statements lead to. -/
theorem targets_itemsOf (all : List Statement) :
    ((itemsOf all).flatMap Item.drawn).map (·.2) = (targets all).map NodeId.text := by
  induction all with
  | nil => rfl
  | cons one rest ih =>
    cases one with
    | anchor role id => exact congrArg (id.text :: ·) ih
    | edge source target => exact congrArg (target.text :: ·) ih
    | _ => exact ih

/-- The edges of a graph but those of its root. -/
def edgesBelow (document : Document) : List (String × String) :=
  (itemsOf (body document)).flatMap Item.drawn

/-- The identifiers of the entries and values of a document. -/
def identifiers (document : Document) : List String := document.pairs.map (·.1.text)

/-- A graph whose root has an identifier for a name declares the entries and values of the document,
and its root leads to the nodes of the roles. -/
theorem parse_graphText (document : Document) {name : String} (legal : isIdentifier name = true) :
    parse (graphText true document name) = some {
      declared := identifiers document
      edges := (name, "streams") :: (name, "calls") :: edgesBelow document } := by
  have graph : (Token.word "G").id? = some "G" := Token.id?_word (by decide)
  have head : spells "digraph".toList "digraph" = true := by decide
  have closed : nests 1 (.setting "newrank" "true" :: .edges name ["streams", "calls"]
      :: itemsOf (body document)) = true := nests_body document
  have split : (statements document name).flatMap Statement.tokens =
      .word "digraph" :: .word "G" :: .mark '\x7b' :: (Statement.newRank.tokens ++
        ((Statement.root name).tokens ++ (body document).flatMap Statement.tokens)) := rfl
  have nodes : (Item.setting "newrank" "true" :: .edges name ["streams", "calls"]
      :: itemsOf (body document)).filterMap Item.declared? = identifiers document :=
    (declared_itemsOf (body document)).trans (by rw [pairs_body]; rfl)
  have drawn : (Item.setting "newrank" "true" :: .edges name ["streams", "calls"]
      :: itemsOf (body document)).flatMap Item.drawn =
        (name, "streams") :: (name, "calls") :: edgesBelow document := rfl
  simp only [parse, lex_graphText document legal, split, items?_tokens document legal, head, graph,
    closed, nodes, drawn, Option.bind_eq_bind, Option.bind_some, Option.isSome_some, Bool.and_self,
    if_true]
  rfl

/-- The edges below the root lead to the entries and values of the document, one to each. -/
theorem targets_edgesBelow (document : Document) :
    (edgesBelow document).map (·.2) = identifiers document := by
  rw [edgesBelow, targets_itemsOf, targets_body, identifiers, ← pairs_body, List.map_filterMap,
    nodes, List.map_filterMap]
  apply List.filterMap_congr
  intro one _
  cases one <;> rfl

/-- No two entries or values have the same identifier. -/
theorem nodup_identifiers (document : Document) : (identifiers document).Nodup := by
  have distinct := (nodup_body document).map NodeId.text_injective
  rw [← targets_body, ← targets_itemsOf] at distinct
  rwa [← targets_edgesBelow]

/-- An edge leads to the root exactly if it has the name of a node that edges lead to. -/
theorem leads_to_root_iff (document : Document) (name : String) :
    (∃ source, (source, name) ∈ (name, "streams") :: (name, "calls") :: edgesBelow document) ↔
      name ∈ "streams" :: "calls" :: identifiers document := by
  rw [← targets_edgesBelow]
  change _ ↔ name ∈ (((name, "streams") :: (name, "calls") :: edgesBelow document).map (·.2))
  rw [List.mem_map]
  constructor
  · rintro ⟨source, inside⟩
    exact ⟨_, inside, rfl⟩
  · rintro ⟨⟨source, target⟩, inside, rfl⟩
    exact ⟨source, inside⟩

/-- A graph begins with its head and the name of its root. -/
theorem graphText_head (escape : Bool) (document : Document) (name : String) :
    ∃ rest, graphText escape document name = "digraph G \x7b\nnewrank=\"true\"\n" ++ name ++
      " -> \x7b streams  calls \x7d\n\n" ++ rest := by
  have split : statements document name =
      .openGraph :: .newRank :: .root name :: body document := rfl
  have front : "digraph G \x7b\nnewrank=\"true\"\n" =
      Statement.openGraph.text escape ++ "\n" ++ (Statement.newRank.text escape ++ "\n") := by
    cases escape <;> decide
  have back : " -> \x7b streams  calls \x7d\n\n" = " -> \x7b streams  calls \x7d\n" ++ "\n" := by
    decide
  have root : (Statement.root name).text escape = name ++ " -> \x7b streams  calls \x7d\n" := rfl
  refine ⟨String.join (((body document).map (·.text escape)).map (· ++ "\n")), ?_⟩
  rw [graphText, split, front, back]
  simp only [List.map_cons, String.join_cons, root, String.append_assoc]

/-- The root of a graph has the name that the path of the file gives it, as it is. If that is an
identifier, the graph with escaped labels is well-formed; it declares every entry and value of the
document, all under different identifiers, the root leads to the nodes of the roles, and one edge
leads to each entry and value. An edge leads to the root exactly if it has the name of one of all
these. -/
theorem root_stands (document : Document) (path : Bytes) :
    (∀ escape, ∃ rest, (render escape document (FilePath.astName path)).bytes =
      Utf8.encode ("digraph G \x7b\nnewrank=\"true\"\n" ++ FilePath.astName path ++
        " -> \x7b streams  calls \x7d\n\n") ++ rest) ∧
    (isIdentifier (FilePath.astName path) = true → ∃ text graph others,
      Utf8.decode (render true document (FilePath.astName path)).bytes = .ok text ∧
      parse text = some graph ∧
      graph.declared = document.pairs.map (·.1.text) ∧ graph.declared.Nodup ∧
      graph.edges = (FilePath.astName path, "streams") :: (FilePath.astName path, "calls")
        :: others ∧
      others.map (·.2) = graph.declared ∧
      ((∃ source, (source, FilePath.astName path) ∈ graph.edges) ↔
        FilePath.astName path ∈ "streams" :: "calls" :: graph.declared)) := by
  constructor
  · intro escape
    obtain ⟨rest, whole⟩ := graphText_head escape document (FilePath.astName path)
    exact ⟨Utf8.encode rest, by rw [bytes_render, whole, Utf8.encode_append]⟩
  · intro legal
    refine ⟨graphText true document (FilePath.astName path), _, edgesBelow document, ?_,
      parse_graphText document legal, rfl, nodup_identifiers document, rfl,
      targets_edgesBelow document, leads_to_root_iff document _⟩
    rw [bytes_render, Utf8.decode_encode]

/-- A document with a call that has an empty result. -/
def oneCall : Document where
  calls := [⟨"add", .nil⟩]

theorem root_stands_accented :
    isIdentifier (FilePath.astName (Utf8.encode "asts/é_1.bin")) = true ∧ ∃ text graph,
      Utf8.decode (render true oneCall "é_1").bytes = .ok text ∧ parse text = some graph ∧
      graph.declared = ["c0", "c0v0"] ∧ ¬∃ source, (source, "é_1") ∈ graph.edges := by
  have name : FilePath.astName (Utf8.encode "asts/é_1.bin") = "é_1" := by decide
  have legal : isIdentifier (FilePath.astName (Utf8.encode "asts/é_1.bin")) = true := by decide
  obtain ⟨text, graph, others, read, parsed, declared, -, -, -, leads⟩ :=
    (root_stands oneCall (Utf8.encode "asts/é_1.bin")).2 legal
  rw [name] at read leads
  refine ⟨legal, text, graph, read, parsed, declared.trans (by decide), ?_⟩
  rw [leads, declared]
  decide

/-- A name with a minus sign in it is no identifier, and a graph with it is not well-formed, even
with escaped labels. And a name can be the identifier of a call, to which an edge leads. -/
theorem root_unfit :
    (∃ rest, graphText true {} (FilePath.astName (Utf8.encode "my-ast.bin")) =
      "digraph G \x7b\nnewrank=\"true\"\n" ++ "my-ast" ++ " -> \x7b streams  calls \x7d\n\n" ++
        rest) ∧
    isIdentifier "my-ast" = false ∧
    parse (graphText true {} (FilePath.astName (Utf8.encode "my-ast.bin"))) = none ∧
    ∃ graph, parse (graphText true oneCall (FilePath.astName (Utf8.encode "c0.bin"))) =
      some graph ∧ graph.edges.head? = some ("c0", "streams") ∧ "c0" ∈ graph.declared ∧
        ("calls", "c0") ∈ graph.edges := by
  have hyphened : FilePath.astName (Utf8.encode "my-ast.bin") = "my-ast" := by decide
  have taken : FilePath.astName (Utf8.encode "c0.bin") = "c0" := by decide
  rw [hyphened, taken]
  refine ⟨graphText_head true {} "my-ast", by decide, ?_, ?_⟩
  · have chars : (graphText true {} "my-ast").toList =
        (Statement.openGraph.text true ++ "\n").toList ++
          ((Statement.newRank.text true ++ "\n").toList ++
            ("my".toList ++ '-' :: "ast -> \x7b streams  calls \x7d\n\n\x7d\n".toList)) := by decide
    have minus : lex ('-' :: "ast -> \x7b streams  calls \x7d\n\n\x7d\n".toList) = none := by
      rw [lex, if_neg (by decide), if_neg (by decide)]
      rfl
    have cut : lex (graphText true {} "my-ast").toList = none := by
      rw [chars, scans_openGraph, scans_newRank, lex_word (by decide) (by decide), minus]
      rfl
    rw [parse, cut]
    rfl
  · exact ⟨_, parse_graphText oneCall (by decide), rfl, by decide, by decide⟩

end Dot

end AstView

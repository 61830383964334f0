import AstView.Proofs.Dot.Line
import Mathlib.Data.List.Nodup
import Mathlib.Logic.Relation

/-!
# The tree in a graph

Read line by line, a graph with escaped labels declares nodes and draws edges. Leave out the line
of the root. Then no node is declared twice, one edge leads to each of them, and no edge leads to
anything else. An edge starts from the node of a role or from a node that was declared before it.
So the edges make trees below `calls` and `streams` (`FormsTree`).

Three facts about the statements carry this. The edges lead to the declared nodes in the order of
the declarations (`targets_body`). No two declared nodes are the same, because the nodes below a
child have its index at the place where their paths part (`nodup_body`). And an edge leads from a
node that is known to a child of it, which is one step deeper (`Grows`).
-/
namespace AstView.Dot

open Text (words lines)
open Relation (TransGen)

/-! ## Declarations and edges -/

/-- The identifier that a line declares: its first word, if a label begins behind it. -/
def declares (line : String) : Option String :=
  match words line with
  | id :: next :: _ => if "[label".toList.isPrefixOf next.toList then some id else none
  | _ => none

/-- Where the edge of a line leads from and to: the words before and behind an arrow. -/
def edge? (line : String) : Option (String × String) :=
  match words line with
  | [source, arrow, target] => if arrow = "->" then some (source, target) else none
  | _ => none

/-- The identifiers that some lines declare. -/
def declared (all : List String) : List String := all.filterMap declares

/-- Some edge of the lines leads from one node to another. -/
def Leads (all : List String) (source target : String) : Prop :=
  (source, target) ∈ all.filterMap edge?

/-- The lines of a graph but for the third one, which is that of the root. -/
def besideRoot (text : String) : List String := (lines text).eraseIdx 2

/-- The lines of a graph declare the entries and values of a document, and the edges make them a
forest below the nodes of the roles. -/
structure FormsTree (document : Document) (all : List String) : Prop where
  /-- No identifier is declared twice. -/
  distinct : (declared all).Nodup
  /-- No identifier is the node of a role. -/
  proper : ∀ role : Role, role.anchor ∉ declared all
  /-- Every call, stream and value has one. -/
  counted : (declared all).length =
    document.calls.length + document.streams.length + document.valueCount
  /-- One edge leads to each of them. -/
  reached : ∀ id ∈ declared all, (all.filterMap edge?).countP (·.2 = id) = 1
  /-- An edge leads to a declared identifier: from the node of its role to an entry, and to a value
  from an identifier that was declared before. -/
  grown : ∀ before line after source target, all = before ++ line :: after →
    edge? line = some (source, target) → target ∈ declared all ∧
      ((∃ role index, target = (NodeId.entry role index).text ∧ source = role.anchor) ∨
        ∃ role index path, target = (NodeId.value role index path).text ∧
          source ∈ declared before)
  /-- Edges lead to every identifier from the node of a role. -/
  rooted : ∀ id ∈ declared all, ∃ role : Role, TransGen (Leads all) role.anchor id
  /-- Edges never lead in a circle. -/
  acyclic : ∀ id, ¬TransGen (Leads all) id id

/-- The node that a statement declares. -/
def Statement.node? : Statement → Option NodeId
  | node id _ => some id
  | _ => none

/-- The node that a statement leads to. -/
def Statement.target? : Statement → Option NodeId
  | anchor _ id => some id
  | edge _ target => some target
  | _ => none

/-- The nodes that some statements declare. -/
def nodes (all : List Statement) : List NodeId := all.filterMap Statement.node?

/-- The nodes that some statements lead to. -/
def targets (all : List Statement) : List NodeId := all.filterMap Statement.target?

/-- A line declares the node of its statement. -/
theorem declares_text {one : Statement} (inner : one.Inner) :
    declares (one.text true) = one.node?.map NodeId.text := by
  unfold declares
  cases inner with
  | anchor role id =>
    rw [words_anchor]
    rfl
  | openCluster id =>
    have other : "[label".toList.isPrefixOf ("cluster_" ++ id.text).toList = false := by
      rw [String.toList_append]
      rfl
    rw [words_openCluster]
    simp only [other, Bool.false_eq_true, if_false]
    rfl
  | node id label =>
    obtain ⟨more, others, found⟩ := words_node id label
    have label : "[label".toList.isPrefixOf ("[label" ++ more).toList = true := by
      rw [String.toList_append, List.isPrefixOf_iff_prefix]
      exact List.prefix_append _ _
    rw [found]
    simp only [label, if_true]
    rfl
  | edge source target =>
    rw [words_edge]
    rfl
  | close =>
    rw [words_close]
    rfl

/-- The edge of a statement: the texts of its ends. -/
def Statement.arrow? : Statement → Option (String × String)
  | anchor role id => some (role.anchor, id.text)
  | edge source target => some (source.text, target.text)
  | _ => none

/-- A line draws the edge of its statement. -/
theorem edge?_text {one : Statement} (inner : one.Inner) : edge? (one.text true) = one.arrow? := by
  unfold edge?
  cases inner with
  | anchor role id =>
    rw [words_anchor]
    rfl
  | openCluster id =>
    have other : "cluster_" ++ id.text ≠ "->" := Text.append_ne (by decide) _
    rw [words_openCluster]
    simp only [if_neg other]
    rfl
  | node id label =>
    obtain ⟨more, others, found⟩ := words_node id label
    have other : "[label" ++ more ≠ "->" := Text.append_ne (by decide) _
    rw [found]
    split
    · rename_i same
      cases same
      rw [if_neg other]
      rfl
    · rfl
  | edge source target =>
    rw [words_edge]
    rfl
  | close =>
    rw [words_close]
    rfl

/-! ## Targets -/

theorem nodes_append (first second : List Statement) :
    nodes (first ++ second) = nodes first ++ nodes second := List.filterMap_append

theorem targets_append (first second : List Statement) :
    targets (first ++ second) = targets first ++ targets second := List.filterMap_append

/-- The nodes of a forest are its first root, the nodes below it and those of the other trees. -/
theorem nodes_forest_cons (id : NodeId) (index : Nat) (kind : Kind) (children rest : List Tree) :
    nodes (forestStatements id index (⟨kind, children⟩ :: rest)) =
      id.child index :: (nodes (forestStatements (id.child index) 0 children)
        ++ nodes (forestStatements id (index + 1) rest)) := by
  rw [← nodes_append]
  rfl

/-- Edges lead to the nodes of a forest in the order in which they are declared. -/
theorem targets_forest (id : NodeId) (index : Nat) (forest : List Tree) :
    targets (forestStatements id index forest) = nodes (forestStatements id index forest) := by
  induction forest using Tree.forest_induction generalizing id index with
  | nil => rfl
  | cons kind children rest below behind =>
    rw [nodes_forest_cons, ← below, ← behind, ← targets_append]
    rfl

/-- The nodes of an entry are its own, the root of its tree and those below. -/
theorem nodes_entry (role : Role) (index : Nat) (entry : Entry) :
    nodes (entryStatements role index entry) = .entry role index :: .value role index []
      :: nodes (forestStatements (.value role index []) 0 entry.tree.children) := by
  obtain ⟨name, kind, children⟩ := entry
  have tree : nodes (entryBody (.entry role index) ⟨name, ⟨kind, children⟩⟩) =
      .entry role index :: .value role index []
        :: nodes (forestStatements (.value role index []) 0 children) := rfl
  cases role with
  | call =>
    rw [← tree, ← List.append_nil (nodes (entryBody _ _))]
    exact nodes_append (entryBody (.entry .call index) ⟨name, ⟨kind, children⟩⟩) [.close]
  | stream => exact tree

/-- Edges lead to the nodes of an entry in the order in which they are declared. -/
theorem targets_entry (role : Role) (index : Nat) (entry : Entry) :
    targets (entryStatements role index entry) = nodes (entryStatements role index entry) := by
  have tree := targets_forest (.entry role index) 0 [entry.tree]
  cases role with
  | call =>
    simp only [entryStatements, entryBody_eq, List.cons_append]
    have edges := targets_append (forestStatements (.entry .call index) 0 [entry.tree]) [.close]
    have own := nodes_append (forestStatements (.entry .call index) 0 [entry.tree]) [.close]
    rw [tree] at edges
    exact congrArg (NodeId.entry .call index :: ·) (edges.trans own.symm)
  | stream =>
    simp only [entryStatements, entryBody_eq]
    exact congrArg (NodeId.entry .stream index :: ·) tree

theorem targets_entries (role : Role) (index : Nat) (entries : List Entry) :
    targets (entriesStatements role index entries) =
      nodes (entriesStatements role index entries) := by
  induction entries generalizing index with
  | nil => rfl
  | cons entry rest ih =>
    rw [entriesStatements, targets_append, nodes_append, targets_entry, ih]

/-- Edges lead to the nodes of a graph in the order in which they are declared. -/
theorem targets_body (document : Document) : targets (body document) = nodes (body document) := by
  rw [body, targets_append, targets_append, nodes_append, nodes_append, targets_entries,
    targets_entries]
  rfl

/-! ## Numbers -/

theorem length_nodes_forest (id : NodeId) (index : Nat) (forest : List Tree) :
    (nodes (forestStatements id index forest)).length = Tree.forestCount forest := by
  induction forest using Tree.forest_induction generalizing id index with
  | nil => rfl
  | cons kind children rest below behind =>
    rw [nodes_forest_cons, List.length_cons, List.length_append, below, behind, Tree.forestCount,
      Tree.count]
    omega

theorem length_nodes_entries (role : Role) (index : Nat) (entries : List Entry) :
    (nodes (entriesStatements role index entries)).length =
      entries.length + Document.entriesCount entries := by
  induction entries generalizing index with
  | nil => rfl
  | cons entry rest ih =>
    have tree : entry.tree.count = 1 + Tree.forestCount entry.tree.children := by
      obtain ⟨kind, children⟩ := entry.tree
      rw [Tree.count]
    rw [entriesStatements, nodes_append, List.length_append, nodes_entry, ih, List.length_cons,
      List.length_cons, length_nodes_forest, List.length_cons, Document.entriesCount, tree]
    omega

/-- A graph has a node for every entry and every value. -/
theorem length_nodes_body (document : Document) : (nodes (body document)).length =
    document.calls.length + document.streams.length + document.valueCount := by
  rw [body, nodes_append, nodes_append, List.length_append, List.length_append,
    length_nodes_entries, length_nodes_entries, Document.valueCount]
  change _ + 0 = _
  omega

/-! ## Different nodes -/

/-- A node below a value has the index of the child that leads to it behind the path of the
value. -/
theorem mem_nodes_forest {role : Role} {own index : Nat} {path : List Nat} {forest : List Tree}
    {id : NodeId} (inside : id ∈ nodes (forestStatements (.value role own path) index forest)) :
    ∃ step rest, index ≤ step ∧ id = .value role own (path ++ step :: rest) := by
  induction forest using Tree.forest_induction generalizing path index with
  | nil => cases inside
  | cons kind children others below behind =>
    rw [nodes_forest_cons, List.mem_cons, List.mem_append] at inside
    obtain rfl | child | other := inside
    · exact ⟨index, [], Nat.le_refl _, rfl⟩
    · obtain ⟨step, rest, -, rfl⟩ := below child
      exact ⟨index, step :: rest, Nat.le_refl _, by rw [List.append_assoc]; rfl⟩
    · obtain ⟨step, rest, least, rfl⟩ := behind other
      exact ⟨step, rest, by omega, rfl⟩

/-- The nodes below a value are different. -/
theorem nodup_forest (role : Role) (own : Nat) (path : List Nat) (index : Nat)
    (forest : List Tree) :
    (nodes (forestStatements (.value role own path) index forest)).Nodup := by
  induction forest using Tree.forest_induction generalizing path index with
  | nil => exact List.nodup_nil
  | cons kind children others below behind =>
    -- All nodes of the first tree have the index where those of the others have a later one.
    have apart {rest more : List Nat} {step : Nat} (later : index + 1 ≤ step) :
        path ++ index :: rest ≠ path ++ step :: more := by
      intro same
      have index := (List.cons.inj (List.append_cancel_left same)).1
      omega
    rw [nodes_forest_cons, List.nodup_cons, List.nodup_append]
    refine ⟨?_, below (path ++ [index]) 0, behind path (index + 1), ?_⟩
    · rw [List.mem_append]
      rintro (child | other)
      · obtain ⟨step, rest, -, same⟩ := mem_nodes_forest child
        have paths := congrArg List.length (NodeId.value.inj same).2.2
        simp only [List.length_append, List.length_cons] at paths
        omega
      · obtain ⟨step, rest, later, same⟩ := mem_nodes_forest other
        exact apart later (NodeId.value.inj same).2.2
    · rintro id child _ other rfl
      obtain ⟨step, rest, -, rfl⟩ := mem_nodes_forest child
      obtain ⟨place, more, later, same⟩ := mem_nodes_forest other
      have paths := (NodeId.value.inj same).2.2
      rw [List.append_assoc] at paths
      exact apart later paths

/-- The place of the entry that a node belongs to. -/
def home : NodeId → Role × Nat
  | .entry role index => (role, index)
  | .value role index _ => (role, index)

/-- The nodes of an entry belong to it. -/
theorem home_of_mem_entry {role : Role} {index : Nat} {entry : Entry} {id : NodeId}
    (inside : id ∈ nodes (entryStatements role index entry)) : home id = (role, index) := by
  rw [nodes_entry, List.mem_cons, List.mem_cons] at inside
  obtain rfl | rfl | value := inside
  · rfl
  · rfl
  · obtain ⟨step, rest, -, rfl⟩ := mem_nodes_forest value
    rfl

theorem home_of_mem_entries {role : Role} {index : Nat} {entries : List Entry} {id : NodeId}
    (inside : id ∈ nodes (entriesStatements role index entries)) :
    (home id).1 = role ∧ index ≤ (home id).2 := by
  induction entries generalizing index with
  | nil => cases inside
  | cons entry rest ih =>
    rw [entriesStatements, nodes_append, List.mem_append] at inside
    obtain own | other := inside
    · rw [home_of_mem_entry own]
      exact ⟨rfl, Nat.le_refl _⟩
    · obtain ⟨same, later⟩ := ih other
      exact ⟨same, by omega⟩

/-- The nodes of an entry are different. -/
theorem nodup_entry (role : Role) (index : Nat) (entry : Entry) :
    (nodes (entryStatements role index entry)).Nodup := by
  rw [nodes_entry, List.nodup_cons, List.nodup_cons, List.mem_cons]
  refine ⟨?_, ?_, nodup_forest role index [] 0 _⟩
  · rintro (same | inside)
    · cases same
    · obtain ⟨step, rest, -, same⟩ := mem_nodes_forest inside
      cases same
  · intro inside
    obtain ⟨step, rest, -, same⟩ := mem_nodes_forest inside
    cases (NodeId.value.inj same).2.2

theorem nodup_entries (role : Role) (index : Nat) (entries : List Entry) :
    (nodes (entriesStatements role index entries)).Nodup := by
  induction entries generalizing index with
  | nil => exact List.nodup_nil
  | cons entry rest ih =>
    rw [entriesStatements, nodes_append, List.nodup_append]
    refine ⟨nodup_entry role index entry, ih (index + 1), ?_⟩
    rintro id own _ other rfl
    have later := (home_of_mem_entries other).2
    rw [home_of_mem_entry own] at later
    omega

/-- No node of a graph is declared twice. -/
theorem nodup_body (document : Document) : (nodes (body document)).Nodup := by
  have whole : nodes (body document) = nodes (entriesStatements .call 0 document.calls) ++
      nodes (entriesStatements .stream 0 document.streams) := by
    rw [body, nodes_append, nodes_append]
    exact List.append_nil _
  rw [whole, List.nodup_append]
  refine ⟨nodup_entries .call 0 _, nodup_entries .stream 0 _, ?_⟩
  rintro id call _ stream rfl
  have role := (home_of_mem_entries call).1
  rw [(home_of_mem_entries stream).1] at role
  cases role

/-! ## Growth -/

/-- An edge leads to an entry from the node of its role, or from a known node to a child of it. -/
def Follows (known : List String) (source target : String) : Prop :=
  (∃ role index, source = role.anchor ∧ target = (NodeId.entry role index).text) ∨
    ∃ (parent : NodeId) (index : Nat), parent.text ∈ known ∧ source = parent.text ∧
      target = (parent.child index).text

/-- Some lines draw edges only that follow from what is known before, some of it declared by other
lines. -/
def Grows (known : List String) : List String → Prop
  | [] => True
  | line :: rest =>
    (∀ source target, edge? line = some (source, target) → Follows known source target) ∧
      Grows (known ++ (declares line).toList) rest

theorem Follows.mono {known more : List String} (also : known ⊆ more) {source target : String}
    (follows : Follows known source target) : Follows more source target := by
  obtain entry | ⟨parent, index, inside, leads⟩ := follows
  · exact Or.inl entry
  · exact Or.inr ⟨parent, index, also inside, leads⟩

/-- More may be known. -/
theorem Grows.mono {known more all : List String} (also : known ⊆ more) (grows : Grows known all) :
    Grows more all := by
  induction all generalizing known more with
  | nil => trivial
  | cons line rest ih =>
    refine ⟨fun source target leads => (grows.1 source target leads).mono also, ?_⟩
    exact ih (List.append_subset.2 ⟨List.subset_append_of_subset_left _ also,
      List.subset_append_right _ _⟩) grows.2

/-- Lines that need no more than what is known may come in a row. -/
theorem Grows.append {known first second : List String} (start : Grows known first)
    (next : Grows known second) : Grows known (first ++ second) := by
  induction first generalizing known with
  | nil => exact next
  | cons line rest ih =>
    exact ⟨start.1, ih start.2 (next.mono (List.subset_append_left _ _))⟩

/-- Every edge follows from the lines before it. -/
theorem Grows.follows {known before after : List String} {line source target : String}
    (grows : Grows known (before ++ line :: after)) (leads : edge? line = some (source, target)) :
    Follows (known ++ declared before) source target := by
  induction before generalizing known with
  | nil =>
    rw [declared, List.filterMap_nil, List.append_nil]
    exact grows.1 source target leads
  | cons first rest ih =>
    have known : known ++ (declares first).toList ++ declared rest =
        known ++ declared (first :: rest) := by
      rw [List.append_assoc, declared, declared, List.filterMap_cons]
      cases declares first <;> rfl
    rw [← known]
    exact ih grows.2

/-- The lines of some statements. -/
def linesOf (all : List Statement) : List String := all.map (·.text true)

theorem linesOf_append (first second : List Statement) :
    linesOf (first ++ second) = linesOf first ++ linesOf second := List.map_append

/-- A statement draws an edge that follows, and what it declares is known behind it. -/
theorem grows_cons {known : List String} {one : Statement} {all : List Statement}
    (inner : one.Inner)
    (follows : ∀ source target, one.arrow? = some (source, target) → Follows known source target)
    (next : Grows (known ++ (one.node?.map NodeId.text).toList) (linesOf all)) :
    Grows known (linesOf (one :: all)) := by
  constructor
  · rw [edge?_text inner]
    exact follows
  · rw [declares_text inner]
    exact next

/-- The braces of clusters and of the graph draw and declare nothing. -/
theorem grows_brace {known : List String} {one : Statement} {all : List Statement}
    (inner : one.Inner) (draws : one.arrow? = none) (declares : one.node? = none)
    (next : Grows known (linesOf all)) : Grows known (linesOf (one :: all)) := by
  apply grows_cons inner
  · intro source target drawn
    rw [draws] at drawn
    cases drawn
  · rw [declares]
    exact next.mono (List.subset_append_left _ _)

/-- A node is known behind its declaration. -/
theorem grows_node {known : List String} {id : NodeId} {label : String} {all : List Statement}
    (next : Grows (known ++ [id.text]) (linesOf all)) :
    Grows known (linesOf (.node id label :: all)) := by
  refine grows_cons (.node _ _) ?_ next
  intro source target drawn
  cases drawn

/-- An edge leads from a known node to a child of it. -/
theorem grows_edge {known : List String} {id : NodeId} {index : Nat} {all : List Statement}
    (start : id.text ∈ known) (next : Grows known (linesOf all)) :
    Grows known (linesOf (.edge id (id.child index) :: all)) := by
  refine grows_cons (.edge _ _) ?_ ?_
  · intro source target drawn
    cases drawn
    exact Or.inr ⟨id, index, start, rfl, rfl⟩
  · exact next.mono (List.subset_append_left _ _)

/-- The node of a role leads to an entry of it. -/
theorem grows_anchor {known : List String} {role : Role} {index : Nat} {all : List Statement}
    (next : Grows known (linesOf all)) :
    Grows known (linesOf (.anchor role (.entry role index) :: all)) := by
  refine grows_cons (.anchor _ _) ?_ ?_
  · intro source target drawn
    cases drawn
    exact Or.inl ⟨role, index, rfl, rfl⟩
  · exact next.mono (List.subset_append_left _ _)

/-- The edges of a forest follow from the node above it. -/
theorem grows_forest {id : NodeId} {known : List String} (start : id.text ∈ known) (index : Nat)
    (forest : List Tree) : Grows known (linesOf (forestStatements id index forest)) := by
  induction forest using Tree.forest_induction generalizing id known index with
  | nil => trivial
  | cons kind children rest below behind =>
    have also : known ⊆ known ++ [(id.child index).text] := List.subset_append_left _ _
    have own : (id.child index).text ∈ known ++ [(id.child index).text] :=
      List.mem_append_right known List.mem_cons_self
    have inner := (below own 0).append (behind (also start) (index + 1))
    rw [← linesOf_append] at inner
    exact grows_edge start (grows_node inner)

/-- The edges of an entry follow from nothing, and so do those of the next ones. -/
theorem grows_entries (known : List String) (role : Role) (index : Nat) (entries : List Entry) :
    Grows known (linesOf (entriesStatements role index entries)) := by
  induction entries generalizing index with
  | nil => trivial
  | cons entry rest ih =>
    have inner : (NodeId.entry role index).text ∈ known ++ [(NodeId.entry role index).text] :=
      List.mem_append_right known List.mem_cons_self
    have tree := grows_forest inner 0 [entry.tree]
    rw [entriesStatements, linesOf_append]
    refine Grows.append ?_ (ih (index + 1))
    cases role with
    | call =>
      have closed : Grows (known ++ [(NodeId.entry .call index).text])
          (linesOf (forestStatements (.entry .call index) 0 [entry.tree] ++ [.close])) := by
        rw [linesOf_append]
        exact tree.append (grows_brace .close rfl rfl trivial)
      simp only [entryStatements, entryBody_eq, List.cons_append]
      exact grows_anchor (grows_brace (.openCluster _) rfl rfl (grows_node closed))
    | stream =>
      simp only [entryStatements, entryBody_eq]
      exact grows_anchor (grows_node tree)

/-- The edges of a graph follow from the lines before them. -/
theorem grows_body (known : List String) (document : Document) :
    Grows known (linesOf (body document)) := by
  rw [body, linesOf_append, linesOf_append]
  exact ((grows_entries known .call 0 document.calls).append
    (grows_entries known .stream 0 document.streams)).append (grows_brace .close rfl rfl trivial)

/-! ## The lines of a graph -/

/-- The lines of a graph but that of the root. -/
def graphLines (document : Document) : List String :=
  "digraph G \x7b" :: "newrank=\"true\"" :: "" :: linesOf (body document)

/-- The lines of a graph declare the nodes of its statements. -/
theorem declared_graphLines (document : Document) :
    declared (graphLines document) = (nodes (body document)).map NodeId.text := by
  have head : declared (graphLines document) = declared (linesOf (body document)) := rfl
  rw [head, declared, linesOf, List.filterMap_map, nodes, List.map_filterMap]
  apply List.filterMap_congr
  intro one inside
  exact declares_text (inner_of_mem_body inside)

/-- The edges in the lines of a graph lead to the nodes that its statements lead to. -/
theorem map_snd_edges (document : Document) :
    ((graphLines document).filterMap edge?).map (·.2) =
      (nodes (body document)).map NodeId.text := by
  have head : (graphLines document).filterMap edge? = (linesOf (body document)).filterMap edge? :=
    rfl
  rw [head, linesOf, List.filterMap_map, List.map_filterMap, ← targets_body, targets,
    List.map_filterMap]
  apply List.filterMap_congr
  intro one inside
  have drawn : one.arrow?.map (·.2) = one.target?.map NodeId.text := by cases one <;> rfl
  rw [Function.comp_apply, edge?_text (inner_of_mem_body inside), drawn]

/-- The edges in the lines of a graph follow from the lines before them. -/
theorem grows_graphLines (document : Document) : Grows [] (graphLines document) := by
  have plain (line : String) (words : edge? line = none) (known : List String) :
      ∀ source target, edge? line = some (source, target) → Follows known source target := by
    intro source target drawn
    rw [words] at drawn
    cases drawn
  exact ⟨plain _ rfl _, plain _ rfl _, plain _ rfl _, grows_body _ document⟩

/-- Every edge in the lines of a graph follows from what the lines declare. -/
theorem follows_of_leads {document : Document} {source target : String}
    (leads : Leads (graphLines document) source target) :
    Follows (declared (graphLines document)) source target := by
  obtain ⟨line, inside, drawn⟩ := List.mem_filterMap.1 leads
  obtain ⟨before, after, whole⟩ := List.append_of_mem inside
  have grows := grows_graphLines document
  rw [whole] at grows
  refine (grows.follows drawn).mono ?_
  rw [whole, declared, declared, List.filterMap_append, List.nil_append]
  exact List.subset_append_left _ _

/-- How deep a node is below the nodes of the roles. -/
def rank (node : String) : Nat := ((NodeId.read node).map (·.depth + 1)).getD 0

theorem rank_text (id : NodeId) : rank id.text = id.depth + 1 := by
  rw [rank, NodeId.read_text]
  rfl

/-- Edges lead down. -/
theorem rank_lt_of_follows {known : List String} {source target : String}
    (follows : Follows known source target) : rank source < rank target := by
  obtain ⟨role, index, rfl, rfl⟩ | ⟨parent, index, -, rfl, rfl⟩ := follows
  · have anchor : rank role.anchor = 0 := by cases role <;> rfl
    rw [anchor, rank_text]
    exact Nat.succ_pos _
  · rw [rank_text, rank_text, NodeId.depth_child]
    exact Nat.lt_succ_self _

/-- A path down the lines of a graph leads to a deeper node. -/
theorem rank_lt_of_path {document : Document} {source target : String}
    (path : TransGen (Leads (graphLines document)) source target) : rank source < rank target := by
  induction path with
  | single leads => exact rank_lt_of_follows (follows_of_leads leads)
  | tail _ leads ih => exact Nat.lt_trans ih (rank_lt_of_follows (follows_of_leads leads))

/-- Every declared node is led to by one edge. -/
theorem count_edges {document : Document} {id : String}
    (inside : id ∈ declared (graphLines document)) :
    ((graphLines document).filterMap edge?).countP (·.2 = id) = 1 := by
  have distinct : ((nodes (body document)).map NodeId.text).Nodup :=
    (nodup_body document).map NodeId.text_injective
  rw [declared_graphLines] at inside
  rw [← List.count_eq_one_of_mem distinct inside, ← map_snd_edges, List.count, List.countP_map]
  rfl

/-- A declared node is below the node of a role. -/
theorem rooted_of_mem {document : Document} {id : String}
    (inside : id ∈ declared (graphLines document)) :
    ∃ role : Role, TransGen (Leads (graphLines document)) role.anchor id := by
  have once := count_edges inside
  obtain ⟨⟨source, target⟩, leads, same⟩ := List.countP_pos_iff.1 (once ▸ Nat.one_pos)
  have same : target = id := by simpa using same
  subst same
  obtain ⟨role, index, rfl, -⟩ | ⟨parent, index, known, rfl, -⟩ := follows_of_leads leads
  · exact ⟨role, .single leads⟩
  · have lower := rank_lt_of_follows (follows_of_leads leads)
    obtain ⟨role, path⟩ := rooted_of_mem known
    exact ⟨role, path.tail leads⟩
termination_by rank id

/-- The lines of a graph form a tree below the nodes of the roles. -/
theorem formsTree_graphLines (document : Document) : FormsTree document (graphLines document) where
  distinct := by
    rw [declared_graphLines]
    exact (nodup_body document).map NodeId.text_injective
  proper := by
    intro role inside
    rw [declared_graphLines, List.mem_map] at inside
    obtain ⟨id, -, same⟩ := inside
    exact id.text_ne_anchor role same
  counted := by
    rw [declared_graphLines, List.length_map, length_nodes_body]
  reached := fun id => count_edges
  grown := by
    intro before line after source target whole drawn
    have leads : Leads (graphLines document) source target := by
      rw [Leads, List.mem_filterMap]
      exact ⟨line, by rw [whole]; exact List.mem_append_right _ List.mem_cons_self, drawn⟩
    constructor
    · rw [declared_graphLines, ← map_snd_edges]
      exact List.mem_map_of_mem leads
    · have grows := grows_graphLines document
      rw [whole] at grows
      obtain ⟨role, index, starts, ends⟩ | ⟨parent, index, known, rfl, rfl⟩ := grows.follows drawn
      · exact Or.inl ⟨role, index, ends, starts⟩
      · obtain ⟨role, own, path, same⟩ := parent.child_eq_value index
        exact Or.inr ⟨role, own, path, by rw [same], known⟩
  rooted := fun id => rooted_of_mem
  acyclic := fun id path => Nat.lt_irrefl _ (rank_lt_of_path path)

/-- The graph of a document with escaped labels and a name of one line is a text. Its third line is
that of the root, and in the others every call, stream and value has an identifier of its own, and
the edges make a tree of them below the nodes of the roles. -/
theorem graph_formsTree (document : Document) (name : String) (oneLine : '\n' ∉ name.toList) :
    ∃ text, Utf8.decode (render true document name).bytes = .ok text ∧
      (lines text)[2]? = some (name ++ " -> \x7b streams  calls \x7d") ∧
        FormsTree document (besideRoot text) := by
  refine ⟨graphText true document name, ?_, ?_⟩
  · rw [bytes_render, Utf8.decode_encode]
  · rw [besideRoot, lines_graphText document oneLine]
    exact ⟨rfl, formsTree_graphLines document⟩

/-- A document with a call and a stream of the same shape, and a child in each. -/
def twins : Document where
  calls := [⟨"one -> c0", ⟨.nil, [⟨.uint64 1, []⟩]⟩⟩]
  streams := [⟨"one -> c0", ⟨.nil, [⟨.uint64 1, []⟩]⟩⟩]

theorem graph_formsTree_twins :
    '\n' ∉ "c0".toList ∧ ∃ text, Utf8.decode (render true twins "c0").bytes = .ok text ∧
      (lines text)[2]? = some "c0 -> \x7b streams  calls \x7d" ∧
        FormsTree twins (besideRoot text) := by
  have single : '\n' ∉ "c0".toList := by decide
  exact ⟨single, graph_formsTree twins "c0" single⟩

end AstView.Dot

import AstView.Document
import AstView.NodeId
import AstView.Proofs.Kind

/-!
# Trees of values

Induction over trees, and what the views show of a document: all of it but the bytes of errors
that are not UTF-8, as a list of the identifier and the label of every entry and every value.
-/
namespace AstView

namespace Tree

/-- A property of forests holds of all of them if it holds of the empty one and of a forest as
soon as it holds of the children of its first tree and of the other trees. -/
theorem forest_induction {motive : List Tree → Prop} (nil : motive [])
    (cons : ∀ kind children rest, motive children → motive rest →
      motive (⟨kind, children⟩ :: rest)) : ∀ forest, motive forest
  | [] => nil
  | ⟨kind, children⟩ :: rest =>
    cons kind children rest (forest_induction nil cons children) (forest_induction nil cons rest)

mutual

/-- What the labels of a tree show of it. -/
def lossy : Tree → Tree
  | ⟨kind, children⟩ => ⟨kind.lossy, forestLossy children⟩

/-- What the labels of some trees show of them. -/
def forestLossy : List Tree → List Tree
  | [] => []
  | tree :: rest => lossy tree :: forestLossy rest

end

mutual

/-- The kinds of the values of a tree. -/
def kinds : Tree → List Kind
  | ⟨kind, children⟩ => kind :: forestKinds children

/-- The kinds of the values of some trees. -/
def forestKinds : List Tree → List Kind
  | [] => []
  | tree :: rest => kinds tree ++ forestKinds rest

end

mutual

/-- The values of a tree whose root has an identifier, each with its own identifier and label: the
root first, and then the values of one child after the other. -/
def pairs (id : NodeId) : Tree → List (NodeId × String)
  | ⟨kind, children⟩ => (id, kind.label) :: forestPairs id 0 children

/-- The same for the children of a node, the first of which has an index. -/
def forestPairs (id : NodeId) (index : Nat) : List Tree → List (NodeId × String)
  | [] => []
  | child :: rest => pairs (id.child index) child ++ forestPairs id (index + 1) rest

end

end Tree

/-- What the labels of an entry show of it. -/
def Entry.lossy (entry : Entry) : Entry := ⟨entry.name, entry.tree.lossy⟩

/-- What the labels of a document show of it. -/
def Document.lossy (document : Document) : Document :=
  ⟨document.calls.map Entry.lossy, document.streams.map Entry.lossy⟩

/-- An entry and the values of its tree, each with its identifier and its label, which is the name
for the entry. -/
def Entry.pairs (role : Role) (index : Nat) (entry : Entry) : List (NodeId × String) :=
  (.entry role index, entry.name) :: entry.tree.pairs (.value role index [])

namespace Document

/-- The same for the entries of a role, the first of which has an index. -/
def entriesPairs (role : Role) (index : Nat) : List Entry → List (NodeId × String)
  | [] => []
  | entry :: rest => entry.pairs role index ++ entriesPairs role (index + 1) rest

/-- The entries and values of a document in order, calls before streams, each with its identifier
and its label. -/
def pairs (document : Document) : List (NodeId × String) :=
  entriesPairs .call 0 document.calls ++ entriesPairs .stream 0 document.streams

/-- The names of the entries and the texts of errors have no newline. -/
def OneLine (document : Document) : Prop :=
  ∀ entry ∈ document.calls ++ document.streams,
    '\n' ∉ entry.name.toList ∧ ∀ kind ∈ entry.tree.kinds, kind.OneLine

instance (document : Document) : Decidable document.OneLine :=
  inferInstanceAs (Decidable (∀ _ ∈ _, _))

end Document

/-! ## Labels -/

/-- The labels of a forest are those of its kinds. -/
theorem Tree.labels_forestPairs (id : NodeId) (index : Nat) (forest : List Tree) :
    (forestPairs id index forest).map (·.2) = (forestKinds forest).map Kind.label := by
  induction forest using Tree.forest_induction generalizing id index with
  | nil => rfl
  | cons kind children rest below behind =>
    rw [forestPairs, pairs, forestKinds, kinds, List.map_append, List.map_append, List.map_cons,
      List.map_cons, below, behind]

/-- The nodes of an entry are its own and those of a forest of one tree. -/
theorem Entry.pairs_eq (role : Role) (index : Nat) (entry : Entry) :
    entry.pairs role index =
      (.entry role index, entry.name) :: Tree.forestPairs (.entry role index) 0 [entry.tree] := by
  simp only [pairs, Tree.forestPairs, NodeId.child, List.append_nil]

/-- The labels of an entry are its name and those of its kinds. -/
theorem Entry.labels_pairs (role : Role) (index : Nat) (entry : Entry) :
    (entry.pairs role index).map (·.2) = entry.name :: entry.tree.kinds.map Kind.label := by
  rw [pairs_eq, List.map_cons, Tree.labels_forestPairs, Tree.forestKinds, Tree.forestKinds,
    List.append_nil]

namespace Document

theorem labels_entriesPairs (role : Role) (index : Nat) (entries : List Entry) :
    (entriesPairs role index entries).map (·.2) =
      entries.flatMap fun entry => entry.name :: entry.tree.kinds.map Kind.label := by
  induction entries generalizing index with
  | nil => rfl
  | cons entry rest ih =>
    rw [entriesPairs, List.map_append, Entry.labels_pairs, ih, List.flatMap_cons]

/-- The labels of a document are the names of its entries, each with those of its kinds. -/
theorem labels_pairs (document : Document) :
    document.pairs.map (·.2) = (document.calls ++ document.streams).flatMap fun entry =>
      entry.name :: entry.tree.kinds.map Kind.label := by
  rw [pairs, List.map_append, labels_entriesPairs, labels_entriesPairs, List.flatMap_append]

/-- What all labels have, the names of the entries and the labels of the kinds have. -/
theorem forall_label_iff (holds : String → Prop) {document : Document} :
    (∀ pair ∈ document.pairs, holds pair.2) ↔ ∀ entry ∈ document.calls ++ document.streams,
      holds entry.name ∧ ∀ kind ∈ entry.tree.kinds, holds kind.label := by
  have labels : (∀ pair ∈ document.pairs, holds pair.2) ↔
      ∀ label ∈ document.pairs.map (·.2), holds label := List.forall_mem_map.symm
  rw [labels, labels_pairs, List.forall_mem_flatMap]
  simp only [List.forall_mem_cons, List.forall_mem_map]

/-- No label has a newline if no name and no text of an error has. -/
theorem newline_not_mem_pairs {document : Document} (oneLine : document.OneLine) :
    ∀ pair ∈ document.pairs, '\n' ∉ pair.2.toList := by
  apply (forall_label_iff fun label => '\n' ∉ label.toList).2
  intro entry inside
  obtain ⟨name, kinds⟩ := oneLine entry inside
  exact ⟨name, fun kind inner => Kind.newline_not_mem_label (kinds kind inner)⟩

end Document

end AstView

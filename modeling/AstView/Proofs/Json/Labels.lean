import AstView.Json
import AstView.NameMap
import AstView.Proofs.Document

/-!
# The labels in a JSON object

The object of a document is walked in the order of the document: the calls and then the streams, and
for each entry its name and then the values of its tree, a value before its children. A value is
written as its kind, with the payload in parentheses if there is one. Members are found by their
names, wherever they stand in their object. That gives the labels which the other views list.
-/
namespace AstView.Json

/-- The value of the first member with a name. -/
def Value.member? (name : String) : Value → Option Value
  | .object members => NameMap.lookup name members
  | _ => none

/-- What is written for a value that is a text, a number or a truth value. -/
def Value.scalarText? : Value → Option String
  | .string text => some text
  | .number value => some (toString value)
  | .bool value => some (if value then "true" else "false")
  | _ => none

/-- A text. -/
def Value.string? : Value → Option String
  | .string text => some text
  | _ => none

/-- The label of a value: its kind, and its payload in parentheses if it has one. -/
def labelOf? (value : Value) : Option String := do
  let kind ← (← value.member? "kind").string?
  match value.member? "payload" with
  | some payload => return kind ++ "(" ++ (← payload.scalarText?) ++ ")"
  | none => return kind

mutual

/-- The label of a value and those of the values below it. -/
def treeLabels : Value → Option (List String)
  | .object members => do
    return (← labelOf? (.object members)) :: (← childrenLabels members)
  | _ => none

/-- The labels of the values under the first member for children. -/
def childrenLabels : List (String × Value) → Option (List String)
  | [] => none
  | (name, value) :: rest => if name = "children" then arrayLabels value else childrenLabels rest

/-- The labels of the values in an array. -/
def arrayLabels : Value → Option (List String)
  | .array items => forestLabels items
  | _ => none

/-- The labels of some values. -/
def forestLabels : List Value → Option (List String)
  | [] => some []
  | item :: rest => do return (← treeLabels item) ++ (← forestLabels rest)

end

/-- The name of an entry and the labels of its tree, which stands under a name of its own. -/
def entryLabels (treeName : String) (entry : Value) : Option (List String) := do
  let name ← (← entry.member? "name").string?
  let tree ← entry.member? treeName
  return name :: (← treeLabels tree)

/-- The labels of the entries in an array. -/
def entriesLabels (treeName : String) : Value → Option (List String)
  | .array entries => (entries.mapM (entryLabels treeName)).map List.flatten
  | _ => none

/-- The labels of a document: those of the calls and then those of the streams. -/
def labels? (document : Value) : Option (List String) := do
  let calls ← entriesLabels "result" (← document.member? "calls")
  let streams ← entriesLabels "filter" (← document.member? "streams")
  return calls ++ streams

/-! ## Trees -/

/-- A payload is written as it is in a label. -/
theorem scalarText?_payload (kind : Kind) :
    (payload kind).map Value.scalarText? = kind.payloadText.map some := by
  cases kind with
  | bool value => cases value <;> rfl
  | _ => rfl

/-- The payload of a value is the member with that name, if it has one. -/
theorem member?_payload (kind : Kind) (children : List Tree) :
    (ofTree ⟨kind, children⟩).member? "payload" = payload kind := by
  rw [ofTree, payloadMember]
  cases payload kind <;> rfl

/-- The label of a value is that of its kind. -/
theorem labelOf?_ofTree (kind : Kind) (children : List Tree) :
    labelOf? (ofTree ⟨kind, children⟩) = some kind.label := by
  have name : (ofTree ⟨kind, children⟩).member? "kind" = some (.string kind.tag.text) := by
    rw [ofTree]
    rfl
  have text := scalarText?_payload kind
  simp only [labelOf?, name, member?_payload, Option.bind_eq_bind, Option.bind_some,
    Value.string?, Kind.label]
  cases shown : payload kind with
  | none =>
    rw [shown, Option.map_none, eq_comm, Option.map_eq_none_iff] at text
    rw [text]
    rfl
  | some value =>
    rw [shown, Option.map_some, eq_comm, Option.map_eq_some_iff] at text
    obtain ⟨written, same, scalar⟩ := text
    simp only [same, ← scalar, Option.bind_some]
    rfl

/-- The values below a value are those of its children. -/
theorem treeLabels_ofTree (kind : Kind) (children : List Tree) :
    treeLabels (ofTree ⟨kind, children⟩) =
      (forestLabels (ofForest children)).map (kind.label :: ·) := by
  have label := labelOf?_ofTree kind children
  rw [ofTree] at label ⊢
  have below : childrenLabels (("kind", .string kind.tag.text) ::
      (payloadMember kind ++ [("children", .array (ofForest children))])) =
      forestLabels (ofForest children) := by
    rw [payloadMember]
    cases payload kind <;> simp [childrenLabels, arrayLabels]
  rw [treeLabels, label, below]
  cases forestLabels (ofForest children) <;> rfl

/-- Walking the values of a forest gives the labels of its kinds. -/
theorem forestLabels_ofForest (forest : List Tree) :
    forestLabels (ofForest forest) = some ((Tree.forestKinds forest).map Kind.label) := by
  induction forest using Tree.forest_induction with
  | nil => rfl
  | cons kind children rest below behind =>
    rw [ofForest, forestLabels, treeLabels_ofTree, below, behind, Tree.forestKinds, Tree.kinds,
      List.map_append, List.map_cons]
    rfl

/-- Walking a tree gives the labels of its kinds. -/
theorem treeLabels_kinds (tree : Tree) :
    treeLabels (ofTree tree) = some (tree.kinds.map Kind.label) := by
  obtain ⟨kind, children⟩ := tree
  rw [treeLabels_ofTree, forestLabels_ofForest, Tree.kinds]
  rfl

/-! ## Documents -/

/-- Walking an entry gives its name and the labels of its kinds. -/
theorem entryLabels_ofEntry (role : Role) (entry : Entry) :
    entryLabels (treeKey role) (ofEntry role entry) =
      some (entry.name :: entry.tree.kinds.map Kind.label) := by
  have name : (ofEntry role entry).member? "name" = some (.string entry.name) := rfl
  have tree : (ofEntry role entry).member? (treeKey role) = some (ofTree entry.tree) := by
    cases role <;> rfl
  simp only [entryLabels, name, tree, treeLabels_kinds, Option.bind_eq_bind, Option.bind_some,
    Value.string?]
  rfl

/-- Walking the entries of a role gives their names, each with the labels of its kinds. -/
theorem entriesLabels_array (role : Role) (entries : List Entry) :
    entriesLabels (treeKey role) (.array (entries.map (ofEntry role))) =
      some (entries.flatMap fun entry => entry.name :: entry.tree.kinds.map Kind.label) := by
  have each : entryLabels (treeKey role) ∘ ofEntry role =
      fun entry => pure (entry.name :: entry.tree.kinds.map Kind.label) :=
    funext fun entry => entryLabels_ofEntry role entry
  rw [entriesLabels, List.mapM_map, each, List.mapM_pure]
  rfl

/-- Walking the object of a document gives the labels that the other views list. -/
theorem labels?_ofDocument (document : Document) (name : String) :
    labels? (ofDocument document name) = some (document.pairs.map (·.2)) := by
  have calls : (ofDocument document name).member? "calls" =
      some (.array (document.calls.map (ofEntry .call))) := rfl
  have streams : (ofDocument document name).member? "streams" =
      some (.array (document.streams.map (ofEntry .stream))) := rfl
  have callLabels : entriesLabels "result" (.array (document.calls.map (ofEntry .call))) = _ :=
    entriesLabels_array .call document.calls
  have streamLabels : entriesLabels "filter" (.array (document.streams.map (ofEntry .stream))) =
      _ := entriesLabels_array .stream document.streams
  rw [Document.labels_pairs, List.flatMap_append]
  simp only [labels?, calls, streams, callLabels, streamLabels, Option.bind_eq_bind,
    Option.bind_some, Option.pure_def]

end AstView.Json

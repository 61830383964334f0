import AstView.Role

/-!
# Identifiers of nodes

The views give every call, stream and value an identifier that spells its place: `c` or `s`
and the index of the entry, then `v0` for the root of its tree, then `c` and an index for
every step down to a child. `c0v0c1` is the second child of the result of the first call.
-/
namespace AstView

/-- The place of an entry or of a value in a document. -/
inductive NodeId where
  /-- The entry of a role at an index. -/
  | entry (role : Role) (index : Nat)
  /-- The value in the tree of that entry that a path of child indices leads to. -/
  | value (role : Role) (index : Nat) (path : List Nat)
  deriving Repr, DecidableEq

namespace Role

/-- The letter of a role in an identifier. -/
def letter : Role → String
  | call => "c"
  | stream => "s"

/-- The node that all entries of a role hang from. -/
def anchor : Role → String
  | call => "calls"
  | stream => "streams"

end Role

namespace NodeId

/-- The step to the child at an index. -/
def stepText (index : Nat) : String := "c" ++ toString index

/-- The text of an identifier. -/
def text : NodeId → String
  | entry role index => role.letter ++ toString index
  | value role index path =>
    role.letter ++ toString index ++ "v0" ++ String.join (path.map stepText)

/-- The identifier of the tree of an entry, or of the child of a value at an index. -/
def child : NodeId → Nat → NodeId
  | entry role index, _ => value role index []
  | value role index path, step => value role index (path ++ [step])

end NodeId

end AstView

import AstView.Json.Quoted
import AstView.Json.Value

/-!
# Writing JSON

A value is written in one of two layouts. The compact layout puts nothing between the tokens.
The pretty layout begins a line for every item of an array and every member of an object, and
one for the bracket that closes them, each indented by two spaces for every bracket around it,
and puts a space after a colon; an array or an object without content stays on its line.
-/
namespace AstView.Json

/-- How much space stands between the tokens. -/
inductive Layout where
  /-- None. -/
  | compact
  /-- Lines and indentation. -/
  | pretty
  deriving Repr, DecidableEq

namespace Layout

/-- What begins an item at a depth. -/
def lineBreak : Layout → Nat → String
  | compact, _ => ""
  | pretty, depth => "\n" ++ String.join (List.replicate depth "  ")

/-- What stands between the name and the value of a member. -/
def colon : Layout → String
  | compact => ":"
  | pretty => ": "

end Layout

/-- Items are separated by commas, so the last has none after it. -/
def separator {α : Type} (rest : List α) : List String := if rest.isEmpty then [] else [","]

/-- The bracket that closes an array or an object stands on a line of its own, unless there is
nothing in it. -/
def closing {α : Type} (layout : Layout) (depth : Nat) (content : List α) : List String :=
  if content.isEmpty then [] else [layout.lineBreak depth]

mutual

/-- The tokens of a value at a depth and the space between them. -/
def Value.tokens (layout : Layout) (depth : Nat) : Value → List String
  | .string text => [quote text]
  | .number value => [toString value]
  | .bool value => [if value then "true" else "false"]
  | .array items =>
    "[" :: (itemTokens layout (depth + 1) items ++ closing layout depth items ++ ["]"])
  | .object members =>
    "\x7b" :: (memberTokens layout (depth + 1) members ++ closing layout depth members ++ ["\x7d"])

/-- The tokens of the items of an array. -/
def itemTokens (layout : Layout) (depth : Nat) : List Value → List String
  | [] => []
  | item :: rest =>
    layout.lineBreak depth
      :: (item.tokens layout depth ++ separator rest ++ itemTokens layout depth rest)

/-- The tokens of the members of an object. -/
def memberTokens (layout : Layout) (depth : Nat) : List (String × Value) → List String
  | [] => []
  | (name, value) :: rest =>
    layout.lineBreak depth :: quote name :: layout.colon
      :: (value.tokens layout depth ++ separator rest ++ memberTokens layout depth rest)

end

/-- The text of a value. -/
def Value.text (layout : Layout) (value : Value) : String := String.join (value.tokens layout 0)

end AstView.Json

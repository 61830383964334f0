import AstView.Scan
import AstView.Settings.Value

/-!
# Paths to settings

A path leads from the outermost table to a value: a name, then names after a dot and indices in
brackets. What is missing on the way is made, and what is of the wrong type on the way is
replaced. A negative index counts from the end of the array as it is; one that goes past its
beginning makes room in front.
-/
namespace AstView.Settings

/-- The way to a value. -/
inductive KeyPath where
  /-- The value under a name in the outermost table. -/
  | name (name : String)
  /-- The value under a name in the table that a path leads to. -/
  | child (path : KeyPath) (name : String)
  /-- The value at an index of the array that a path leads to. -/
  | item (path : KeyPath) (index : Int)
  deriving Repr, DecidableEq

namespace KeyPath

/-- A character of a name. -/
def isNameChar (char : Char) : Bool :=
  (decide ('a' ≤ char) && decide (char ≤ 'z')) || (decide ('A' ≤ char) && decide (char ≤ 'Z'))
    || (decide ('0' ≤ char) && decide (char ≤ '9')) || char == ' ' || char == '_' || char == '-'

/-- A name in a path. -/
def scanName : Scan String := do return String.ofList (← Scan.spanSome isNameChar)

/-- A space or a tab. -/
def isSpace (char : Char) : Bool := char == ' ' || char == '\t'

/-- The number that decimal digits spell. -/
def decimal (digits : List Char) : Nat :=
  digits.foldl (fun value char => value * 10 + (char.toNat - '0'.toNat)) 0

/-- An index that fits in 64 bits with a sign. -/
def scanIndex : Scan Int := do
  let _ ← Scan.span isSpace
  let minus ← Scan.maybe (Scan.char '-')
  let digits ← Scan.spanSome fun char => decide ('0' ≤ char) && decide (char ≤ '9')
  let _ ← Scan.span isSpace
  let size : Int := decimal digits
  let index := if minus.isSome then -size else size
  Scan.guarded (decide (-9223372036854775808 ≤ index) && decide (index ≤ 9223372036854775807))
  return index

/-- One step of a path. -/
inductive Step where
  /-- To a value of a table. -/
  | child (name : String)
  /-- To a value of an array. -/
  | item (index : Int)

/-- A name after a dot, or an index in brackets. -/
def scanStep : Scan Step :=
  Scan.either
    (do
      let _ ← Scan.char '.'
      return .child (← scanName))
    (do
      let _ ← Scan.char '['
      let index ← scanIndex
      let _ ← Scan.char ']'
      return .item index)

/-- A path goes on by a step. -/
def extend (path : KeyPath) : Step → KeyPath
  | .child key => path.child key
  | .item index => path.item index

/-- The path that a text spells. -/
def parse (text : String) : Option KeyPath := do
  let (first, rest) ← scanName text.toList
  let (steps, rest) ← Scan.many scanStep rest
  if rest.isEmpty then some (steps.foldl extend (.name first)) else none

/-- Changes the item of an array at an index; an array that is too short gets items without a
value. -/
def changeItem (index : Int) (change : Value → Value) (root : Value) : Value :=
  let items := root.items
  let place := if 0 ≤ index then index else items.length + index
  if 0 ≤ place then
    let place := place.toNat
    let items := items ++ List.replicate (place + 1 - items.length) Value.nothing
    .array root.itemsOrigin (items.modify place change)
  else
    let room := List.replicate ((-place).toNat - 1) Value.nothing
    .array root.itemsOrigin (change .nothing :: (room ++ items))

/-- Changes the field of a table under a name, which counts in lowercase. -/
def changeField (key : String) (change : Value → Value) (root : Value) : Value :=
  root.withField (Text.toLower key)
    (change ((root.field? (Text.toLower key)).getD .nothing))

/-- Changes the value that a path leads to. -/
def change : KeyPath → (Value → Value) → Value → Value
  | name key, f, root => changeField key f root
  | child path key, f, root => path.change (changeField key f) root
  | item path index, f, root => path.change (changeItem index f) root

/-- Puts a value at the end of a path. A table is merged into the one that is there, unless the
path ends in an index. -/
def set : KeyPath → Value → Value → Value
  | name key, value, root => Value.place key value root
  | child path key, value, root => path.change (Value.place key value) root
  | item path index, value, root => path.change (changeItem index fun _ => value) root

end KeyPath

end AstView.Settings

import AstView.Toml.Moment
import AstView.Toml.Value

/-!
# Tables that stand for moments

A table whose first key is the reserved one stands for a moment. The value under that key must
be a string that holds a moment and nothing else, written as in a document; the other keys of
the table do not count.
-/
namespace AstView.Toml

/-- The first key of a table that stands for a moment. -/
def momentKey : String := "$__toml_private_datetime"

/-- The moment that a text holds, in the usual form, if it holds nothing else. -/
def wholeMoment (text : String) : Option String :=
  match moment text.toList with
  | some (found, []) => some found
  | _ => none

/-- The moment that a table stands for by its first value. -/
def Value.asMoment : Value → Option Value
  | .string text => (wholeMoment text).map .moment
  | _ => none

mutual

/-- A value with moments in place of the tables that stand for them. There is none if such a
table gives no moment. -/
def Value.withMoments : Value → Option Value
  | .array items => (itemsWithMoments items).map .array
  | .table [] => some (.table [])
  | .table ((key, value) :: rest) =>
    if key = momentKey then value.asMoment
    else do
      let value ← value.withMoments
      let rest ← entriesWithMoments rest
      return .table ((key, value) :: rest)
  | value => some value

/-- Values in order with moments in place of the tables that stand for them. -/
def itemsWithMoments : List Value → Option (List Value)
  | [] => some []
  | head :: rest => do
    let head ← head.withMoments
    let rest ← itemsWithMoments rest
    return head :: rest

/-- Values under keys with moments in place of the tables that stand for them. -/
def entriesWithMoments : List (String × Value) → Option (List (String × Value))
  | [] => some []
  | (key, value) :: rest => do
    let value ← value.withMoments
    let rest ← entriesWithMoments rest
    return (key, value) :: rest

end

end AstView.Toml

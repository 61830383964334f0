import AstView.Bytes

/-!
# JSON values

The fragment of JSON that the views need: text, natural numbers, truth values, arrays, and
objects whose members keep their order.
-/
namespace AstView.Json

/-- A JSON value. -/
inductive Value where
  /-- A text. -/
  | string (text : String)
  /-- A number. -/
  | number (value : Nat)
  /-- A truth value. -/
  | bool (value : Bool)
  /-- Values in order. -/
  | array (items : List Value)
  /-- Names with a value each, in order. -/
  | object (members : List (String × Value))
  deriving Repr, Inhabited

end AstView.Json

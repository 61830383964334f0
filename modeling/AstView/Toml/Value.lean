/-!
# TOML values

A TOML document is a table. Dates and times are kept as their text in the usual form, because
nothing here computes with them.
-/
namespace AstView.Toml

/-- A TOML value. -/
inductive Value where
  /-- A text. -/
  | string (text : String)
  /-- A whole number. -/
  | integer (value : Int)
  /-- A floating-point number. -/
  | float (value : Float)
  /-- A truth value. -/
  | boolean (value : Bool)
  /-- A date, a time or both. -/
  | moment (text : String)
  /-- Values in order. -/
  | array (items : List Value)
  /-- Values under keys, no key twice. -/
  | table (entries : List (String × Value))
  deriving Inhabited

end AstView.Toml

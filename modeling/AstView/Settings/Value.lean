import AstView.Decimal
import AstView.Text.LowerCase
import AstView.Text.Quoted

/-!
# Values of settings

Settings come as values whose types may differ from what the program asks for. A value knows the
file that it comes from, if it comes from one. What is not of the type asked for is described in
messages by its type, and by its value if that is short.
-/
namespace AstView.Settings

/-- A value without others in it. -/
inductive Scalar where
  /-- No value. -/
  | nil
  /-- A truth value. -/
  | bool (value : Bool)
  /-- A whole number. -/
  | integer (value : Int)
  /-- A floating-point number. -/
  | float (value : Float)
  /-- A text. -/
  | string (text : String)
  deriving Inhabited

/-- A value and the file that it comes from. -/
inductive Value where
  /-- A value without others in it. -/
  | scalar (origin : Option String) (scalar : Scalar)
  /-- Values in order. -/
  | array (origin : Option String) (items : List Value)
  /-- Values under names, no name twice. -/
  | table (origin : Option String) (fields : List (String × Value))

/-- What a value is, where something else was asked for. -/
inductive Unexpected where
  /-- No value. -/
  | nil
  /-- A truth value. -/
  | bool (value : Bool)
  /-- A whole number. -/
  | integer (value : Int)
  /-- A floating-point number. -/
  | float (value : Float)
  /-- A text. -/
  | string (text : String)
  /-- Values in order. -/
  | array
  /-- Values under names. -/
  | table

/-- A number that has no point in its text gets one, unless it is infinite or no number. -/
def pointed (value : Float) : String :=
  let text := Decimal.floatText value
  if value.isFinite && !text.toList.contains '.' then text ++ ".0" else text

/-- The description of a value in a message. -/
def Unexpected.text : Unexpected → String
  | nil => "unit value"
  | bool value => "boolean `" ++ (if value then "true" else "false") ++ "`"
  | integer value => "integer `" ++ toString value ++ "`"
  | float value => "floating point `" ++ pointed value ++ "`"
  | string text => "string " ++ Text.quoted text
  | array => "sequence"
  | table => "map"

/-- A value without others in it, where something else was asked for. -/
def Scalar.unexpected : Scalar → Unexpected
  | nil => .nil
  | bool value => .bool value
  | integer value => .integer value
  | float value => .float value
  | string text => .string text

namespace Value

/-- A table without fields that comes from no file. -/
def emptyTable : Value := .table none []

/-- No value, from no file. -/
def nothing : Value := .scalar none .nil

instance : Inhabited Value := ⟨nothing⟩

/-- The file that a value comes from. -/
def origin : Value → Option String
  | scalar origin _ => origin
  | array origin _ => origin
  | table origin _ => origin

/-- The fields of a table; other values have none. -/
def fields : Value → List (String × Value)
  | table _ fields => fields
  | _ => []

/-- The field of a table under a name. -/
def field? (value : Value) (name : String) : Option Value :=
  (value.fields.find? fun field => field.1 == name).map (·.2)

/-- Puts a field into the place of the one of the same name, or after the others. -/
def putField (name : String) (value : Value) : List (String × Value) → List (String × Value)
  | [] => [(name, value)]
  | head :: rest =>
    if head.1 = name then (name, value) :: rest else head :: putField name value rest

/-- Puts a field into a table; what is no table becomes one. -/
def withField (root : Value) (name : String) (value : Value) : Value :=
  match root with
  | table origin fields => .table origin (putField name value fields)
  | _ => .table none [(name, value)]

/-- The items of an array; other values have none. -/
def items : Value → List Value
  | array _ items => items
  | _ => []

/-- The file that the items of an array come from. -/
def itemsOrigin : Value → Option String
  | array origin _ => origin
  | _ => none

mutual

/-- Puts a value under a name, which counts in lowercase. A table is merged into the one that is
there, name by name and however deep; any other value takes the place of what is there. -/
def place (name : String) : Value → Value → Value
  | scalar origin content, root => root.withField (Text.toLower name) (.scalar origin content)
  | array origin content, root => root.withField (Text.toLower name) (.array origin content)
  | table _ content, root =>
    root.withField (Text.toLower name)
      (placeAll content ((root.field? (Text.toLower name)).getD emptyTable))

/-- Puts values under their names. -/
def placeAll : List (String × Value) → Value → Value
  | [], root => root
  | (name, value) :: rest, root => placeAll rest (place name value root)

end

/-- The truth value that a value stands for: a number other than zero is true, and a text is
true or false in four spellings each and any case. -/
def toFlag : Value → Except Unexpected Bool
  | scalar _ (.bool value) => .ok value
  | scalar _ (.integer value) => .ok (value != 0)
  | scalar _ (.float value) => .ok (value != 0)
  | scalar _ (.string text) =>
    let lowered := Text.toLower text
    if lowered ∈ ["1", "true", "on", "yes"] then .ok true
    else if lowered ∈ ["0", "false", "off", "no"] then .ok false
    else .error (.string lowered)
  | scalar _ .nil => .error .nil
  | array _ _ => .error .array
  | table _ _ => .error .table

/-- The text that a value stands for; numbers and truth values have one. -/
def toText : Value → Except Unexpected String
  | scalar _ (.string text) => .ok text
  | scalar _ (.bool value) => .ok (if value then "true" else "false")
  | scalar _ (.integer value) => .ok (toString value)
  | scalar _ (.float value) => .ok (Decimal.floatText value)
  | scalar _ .nil => .error .nil
  | array _ _ => .error .array
  | table _ _ => .error .table

end Value

end AstView.Settings

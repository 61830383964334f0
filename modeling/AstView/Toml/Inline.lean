import AstView.Toml.Item
import AstView.Toml.Moment
import AstView.Toml.Number

/-!
# Keys and values in TOML

A key is one or more names with dots between them. A value on the right of a key is a string, a
number, a truth value, a moment, an array or an inline table. Arrays may go over many lines and
end in a comma; inline tables may do neither. Arrays and inline tables nest less than eighty
deep, and a key has less than eighty names.
-/
namespace AstView.Toml

/-- How deep values nest at most, and how many names a key has at most. -/
def nestingLimit : Nat := 79

/-- A character of a name without quotes. -/
def isBare (char : Char) : Bool :=
  isDigit char || (decide ('a' ≤ char) && decide (char ≤ 'z'))
    || (decide ('A' ≤ char) && decide (char ≤ 'Z')) || char == '_' || char == '-'

/-- One name of a key. -/
def simpleKey : Scan String :=
  Scan.firstOf [basicString, literalString, (do return String.ofList (← Scan.spanSome isBare))]

/-- A key: the names that lead to a table, and the last one. -/
def key : Scan (List String × String) := do
  let names ← Scan.separated
    (do
      let _ ← blanks
      let name ← simpleKey
      let _ ← blanks
      return name)
    (Scan.char '.')
  Scan.guarded (decide (names.length ≤ nestingLimit))
  Scan.ofOption (names.getLast?.map fun last => (names.dropLast, last))

/-- A truth value. -/
def boolean : Scan Bool :=
  Scan.either
    (do Scan.word ['t', 'r', 'u', 'e']; return true)
    (do Scan.word ['f', 'a', 'l', 's', 'e']; return false)

/-- A value without others in it. -/
def plainValue : Scan Value :=
  Scan.firstOf [
    Value.string <$> anyString,
    Value.boolean <$> boolean,
    Value.moment <$> moment,
    Value.float <$> float,
    Value.integer <$> integer]

/-- An array of values of a kind. -/
def array (item : Scan Value) : Scan Value := do
  let _ ← Scan.char '['
  let items ← Scan.maybe (Scan.separated
    (do
      gap
      let value ← item
      gap
      return value)
    (Scan.char ','))
  if items.isSome then let _ ← Scan.maybe (Scan.char ',')
  gap
  let _ ← Scan.char ']'
  return .array (items.getD [])

/-- The items of an inline table from its keys and values. -/
def inlineItems (pairs : List ((List String × String) × Value)) : Option Items :=
  pairs.foldlM (fun items pair => items.insert pair.1.1 pair.1.2 (.value pair.2) .header) []

/-- An inline table with values of a kind. -/
def inlineTable (item : Scan Value) : Scan Value := do
  let _ ← Scan.char '\x7b'
  let pairs ← Scan.maybe (Scan.separated
    (do
      let name ← key
      let _ ← Scan.char '='
      let _ ← blanks
      let value ← item
      let _ ← blanks
      return (name, value))
    (Scan.char ','))
  let _ ← blanks
  let _ ← Scan.char '\x7d'
  let items ← Scan.ofOption (inlineItems (pairs.getD []))
  return .table (entryValues items)

/-- A value with others in it up to a depth. -/
def value : Nat → Scan Value
  | 0 => plainValue
  | depth + 1 => Scan.firstOf [array (value depth), inlineTable (value depth), plainValue]

end AstView.Toml

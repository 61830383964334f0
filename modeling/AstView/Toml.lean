import AstView.Toml.Inline
import AstView.Toml.MomentTable

/-!
# TOML documents

A document is a list of lines: blank lines, comments, headers of tables, and keys with values.
A key goes into the table whose header came last, or into the outermost table before the first
header. What is no document of version 1.0 of TOML is refused as a whole, and so is a document
whose outermost table stands for a moment.
-/
namespace AstView.Toml

/-- A line that says something. -/
inductive Line where
  /-- The header of a table. -/
  | table (path : List String) (key : String)
  /-- The header of another table of an array. -/
  | element (path : List String) (key : String)
  /-- A key and its value. -/
  | pair (path : List String) (key : String) (value : Value)

/-- The header of another table of an array. -/
def elementHeader : Scan Line := do
  Scan.word ['[', '[']
  let (path, name) ← key
  Scan.word [']', ']']
  lineEnd
  return .element path name

/-- The header of a table. -/
def tableHeader : Scan Line := do
  let _ ← Scan.char '['
  let (path, name) ← key
  let _ ← Scan.char ']'
  lineEnd
  return .table path name

/-- A key and its value. -/
def keyAndValue : Scan Line := do
  let (path, name) ← key
  let _ ← Scan.char '='
  let _ ← blanks
  let found ← value nestingLimit
  lineEnd
  return .pair path name found

/-- A line. -/
def line : Scan (Option Line) := do
  let _ ← blanks
  Scan.firstOf [
    some <$> elementHeader,
    some <$> tableHeader,
    some <$> keyAndValue,
    (do let _ ← comment; lineEnd; return none),
    (do let _ ← newline; return none)]

/-- The lines of a document. A mark of the byte order in front of them is left out. -/
def lines : Scan (List Line) := do
  let _ ← Scan.maybe (Scan.char '\uFEFF')
  let found ← Scan.many line
  let _ ← blanks
  Scan.atEnd
  return found.filterMap id

/-- The items of a document that goes on after a header has been given. -/
def build (header : List String) (items : Items) : List Line → Option Items
  | [] => some items
  | .table path name :: rest => do
    let items ← items.openTable path name
    build (path ++ [name]) items rest
  | .element path name :: rest => do
    let items ← items.openElement path name
    build (path ++ [name]) items rest
  | .pair path name found :: rest => do
    let items ← items.insertUnder header path name found
    build header items rest

/-- The outermost table of a document. -/
def parse (text : String) : Option (List (String × Value)) := do
  let (found, _) ← lines text.toList
  let items ← build [] [] found
  match ← (Value.table (entryValues items)).withMoments with
  | .table entries => return entries
  | _ => none

end AstView.Toml

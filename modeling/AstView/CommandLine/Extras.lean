import AstView.Parameters

/-!
# Extra arguments

Parameters for formats stand among the other arguments. An argument that begins with one of two
markers is a flag; what follows the marker is its key, and the next argument is its value unless
that begins with a hyphen or is not there, in which case the value is `true`. The other
arguments are kept. Of several flags with one key the last one counts.
-/
namespace AstView.CommandLine

/-- The beginnings of a flag. -/
inductive Marker where
  /-- The usual one. -/
  | extra
  /-- The other one. -/
  | extras
  deriving Repr, DecidableEq

/-- The text of a marker. -/
def Marker.text : Marker → String
  | extra => "--extra-"
  | extras => "--extras-"

/-- A stretch of the argument list. -/
inductive Part where
  /-- An argument that is no flag and no value of one. -/
  | kept (argument : String)
  /-- A flag with its value, if it has one. -/
  | flag (marker : Marker) (key : String) (value : Option String)
  deriving Repr, DecidableEq

/-- What a text begins with taken away, if it begins with it. -/
def strip (start text : String) : Option String :=
  if start.toList.isPrefixOf text.toList then
    some (String.ofList (text.toList.drop start.toList.length))
  else none

/-- The marker and the key of a flag. -/
def readFlag (argument : String) : Option (Marker × String) :=
  match strip Marker.extra.text argument with
  | some key => some (.extra, key)
  | none => (strip Marker.extras.text argument).map fun key => (.extras, key)

/-- Whether an argument begins with a hyphen. -/
def isHyphenated (argument : String) : Bool := argument.toList.head? == some '-'

/-- The parts of an argument list. -/
def parts : List String → List Part
  | [] => []
  | [last] =>
    match readFlag last with
    | none => [.kept last]
    | some (marker, key) => [.flag marker key none]
  | first :: second :: rest =>
    match readFlag first with
    | none => .kept first :: parts (second :: rest)
    | some (marker, key) =>
      if isHyphenated second then .flag marker key none :: parts (second :: rest)
      else .flag marker key (some second) :: parts rest

/-- The argument that a part keeps. -/
def Part.kept? : Part → Option String
  | kept argument => some argument
  | flag _ _ _ => none

/-- The key of a part and the value that it gets. -/
def Part.pair? : Part → Option (String × String)
  | kept _ => none
  | flag _ key value => some (key, value.getD "true")

/-- The arguments that are kept and the parameters given by the others. -/
def splitExtras (arguments : List String) : List String × Parameters :=
  ((parts arguments).filterMap Part.kept?, .ofList ((parts arguments).filterMap Part.pair?))

end AstView.CommandLine

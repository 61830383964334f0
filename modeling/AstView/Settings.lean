import AstView.Parameters
import AstView.Settings.Loader

/-!
# Settings

The program has four settings, each in a group of its own. `Loader` gathers the layers that they
come from, and building it reads the files and converts the value that wins for each setting. Below
the files is the document of the defaults, which is part of the program and has every setting. A
group is a table, or an array whose first item is the value of its only setting.
-/
namespace AstView

/-- What the user can set. -/
structure Settings where
  /-- The format of an output file whose extension no format lists. -/
  defaultFormat : String := "dot"
  /-- Whether the labels of a graph are escaped. -/
  escapeLabels : Bool := false
  /-- Whether the lines of a tree view show identifiers. -/
  showIds : Bool := false
  /-- Whether JSON has the pretty layout. -/
  pretty : Bool := true
  deriving Repr, DecidableEq, Inhabited

namespace Settings

/-- The document of the defaults. -/
@[irreducible]
def defaultsText : String :=
  "# Built-in defaults for animagus-dot.\n"
    ++ "#\n"
    ++ "# Every key is listed here; user files (animagus-dot.toml in the working\n"
    ++ "# directory, or a file passed with --config) only need the keys they change.\n"
    ++ "\n"
    ++ "[output]\n"
    ++ "# Format used when --to is absent and the output extension is not recognized.\n"
    ++ "default_format = \"dot\"\n"
    ++ "\n"
    ++ "[dot]\n"
    ++ "# Escape backslashes, quotes and newlines inside labels. Off by default so the\n"
    ++ "# output stays byte-identical to what the animagus toolchain expects.\n"
    ++ "escape_labels = false\n"
    ++ "\n"
    ++ "[treeviz]\n"
    ++ "# Append the DOT identifier of every node.\n"
    ++ "show_ids = false\n"
    ++ "\n"
    ++ "[json]\n"
    ++ "pretty = true\n"

/-- A group with one setting: where it is, what messages call it, and what its setting is. -/
structure Group (α : Type) where
  /-- The name of the group. -/
  table : String
  /-- The name of the group in messages. -/
  title : String
  /-- The name of the setting. -/
  field : String
  /-- The type of the setting in messages. -/
  expected : String
  /-- The setting that a value stands for. -/
  convert : Value → Except Unexpected α

namespace Group

variable {α : Type}

/-- Converts the value of the setting, which stands at a path in the group. -/
def convertAt (group : Group α) (path : String) (value : Value) : Except Error α :=
  (group.convert value).mapError fun found =>
    .mistyped found group.expected (group.table ++ path) value.origin

/-- Reads the setting of the group out of the outermost table. -/
def read (group : Group α) (root : Value) : Except Error α :=
  match root.field? group.table with
  | none => .error (.missingField group.table)
  | some (.table origin fields) =>
    match (Value.table origin fields).field? group.field with
    | none => .error (.missingField group.field)
    | some value => group.convertAt ("." ++ group.field) value
  | some (.array _ []) => .error (.emptyGroup group.title)
  | some (.array _ (first :: _)) => group.convertAt "[0]" first
  | some (.scalar _ content) => .error (.noGroup content.unexpected group.title)

end Group

/-- The group of the output. -/
def outputGroup : Group String :=
  ⟨"output", "OutputConfig", "default_format", "a string", Value.toText⟩

/-- The group of the graph. -/
def dotGroup : Group Bool :=
  ⟨"dot", "DotFormatConfig", "escape_labels", "a boolean", Value.toFlag⟩

/-- The group of the tree view. -/
def treeViewGroup : Group Bool :=
  ⟨"treeviz", "TreevizConfig", "show_ids", "a boolean", Value.toFlag⟩

/-- The group of JSON. -/
def jsonGroup : Group Bool :=
  ⟨"json", "JsonConfig", "pretty", "a boolean", Value.toFlag⟩

/-- Reads all settings out of the outermost table. -/
def ofValue (root : Value) : Except Error Settings := do
  let defaultFormat ← outputGroup.read root
  let escapeLabels ← dotGroup.read root
  let showIds ← treeViewGroup.read root
  let pretty ← jsonGroup.read root
  return { defaultFormat, escapeLabels, showIds, pretty }

/-- The settings that layers over the defaults and overrides over those come to. -/
def ofLayers (layers : List Layer) (overrides : List Override) : Except Error Settings := do
  let defaults ← Source.layer none defaultsText
  let files := (defaults :: layers).foldl putLayer Value.emptyTable
  ofValue (overrides.foldl (fun root override => override.1.set override.2 root) files)

/-- The parameters that say to a format what the settings say about it. -/
def parametersFor (settings : Settings) (format : String) : Parameters :=
  let flag (value : Bool) : String := if value then "true" else "false"
  match format with
  | "dot" => .ofList [("escape-labels", flag settings.escapeLabels)]
  | "treeviz" => .ofList [("show-ids", flag settings.showIds)]
  | "json" => .ofList [("pretty", flag settings.pretty)]
  | _ => .empty

/-- The layers that settings come from. -/
structure Loader where
  /-- The files in order. -/
  sources : List Source := []
  /-- The overrides in order, no path twice. -/
  overrides : List Override := []
  deriving Inhabited

namespace Loader

/-- Adds a file that has to be there. -/
def withFile (loader : Loader) (path : String) : Loader :=
  { loader with sources := loader.sources ++ [⟨path, true⟩] }

/-- Adds a file that may be missing. -/
def withOptionalFile (loader : Loader) (path : String) : Loader :=
  { loader with sources := loader.sources ++ [⟨path, false⟩] }

/-- Puts a value under a path into the place of the one that is there, or after the others. -/
def putOverride (path : KeyPath) (value : Value) : List Override → List Override
  | [] => [(path, value)]
  | head :: rest =>
    if head.1 = path then (path, value) :: rest else head :: putOverride path value rest

/-- Adds an override under the path that a text spells. -/
def setOverride (loader : Loader) (key : String) (value : Value) : Except Error Loader :=
  match KeyPath.parse key with
  | none => .error .keyPath
  | some path => .ok { loader with overrides := putOverride path value loader.overrides }

/-- Reads the files and converts the settings. -/
def build {m : Type → Type} [Monad m] (host : Host m) (loader : Loader) :
    m (Except Error Settings) := do
  match ← Source.fetchAll host loader.sources with
  | .error error => return .error error
  | .ok layers => return ofLayers layers loader.overrides

end Loader

end Settings

end AstView

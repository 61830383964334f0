import AstView.FilePath
import AstView.Host
import AstView.Settings.Error
import AstView.Settings.KeyPath
import AstView.Toml

/-!
# Layers of settings

Settings come in layers: the defaults, then files in the order in which they are given, then
single values that override them whatever the order. A later layer wins, setting by setting. A
file may be required or optional; an optional file that is not there or cannot be read counts as
empty, but one that is there has to be a TOML document. If there is no file at a path, the path
with `.toml` at its end is tried.

A top-level key of a file may spell a path to a setting.
-/
namespace AstView.Settings

/-- Names and values at the top of a layer. -/
abbrev Layer := List (String × Value)

mutual

/-- A value out of a document, which may come from a file. A moment becomes its text. -/
def Value.ofToml (origin : Option String) : Toml.Value → Value
  | .string text => .scalar origin (.string text)
  | .integer value => .scalar origin (.integer value)
  | .float value => .scalar origin (.float value)
  | .boolean value => .scalar origin (.bool value)
  | .moment text => .scalar origin (.string text)
  | .array items => .array origin (itemsOfToml origin items)
  | .table entries => .table origin (fieldsOfToml origin entries)

/-- Values out of a document. -/
def itemsOfToml (origin : Option String) : List Toml.Value → List Value
  | [] => []
  | item :: rest => Value.ofToml origin item :: itemsOfToml origin rest

/-- Values out of a document under their names. -/
def fieldsOfToml (origin : Option String) : List (String × Toml.Value) → List (String × Value)
  | [] => []
  | (name, value) :: rest => (name, Value.ofToml origin value) :: fieldsOfToml origin rest

end

/-- A file with settings. -/
structure Source where
  /-- The path as given. -/
  path : String
  /-- Whether the file has to be there. -/
  required : Bool
  deriving Repr, DecidableEq

namespace Source

/-- The parts of a path that lead to another place. -/
def steps (path : Bytes) : List Bytes :=
  (FilePath.segments path).filter fun segment => !FilePath.isHere segment

/-- The path with `.toml` at the end of its file name, if it has one. -/
def withExtension (path : String) : Option String := do
  let bytes := Utf8.encode path
  let _ ← FilePath.fileName bytes
  let root := if bytes.head? = some FilePath.slash then "/" else ""
  return root ++ Utf8.lossy (List.intercalate [FilePath.slash] (steps bytes)) ++ ".toml"

/-- A location seen from another one. -/
def relativeTo (base : List Bytes) (place : List Bytes) : List Bytes :=
  match base, place with
  | first :: base', next :: place' =>
    if first = next then relativeTo base' place'
    else (first :: base').map (fun _ => Utf8.encode "..") ++ next :: place'
  | base, place => base.map (fun _ => Utf8.encode "..") ++ place

/-- The name by which messages call a file: its path from the working directory. -/
def label (workingDirectory : List Bytes) (path : String) : String :=
  let bytes := Utf8.encode path
  let places :=
    if bytes.head? = some FilePath.slash then relativeTo workingDirectory (steps bytes)
    else steps bytes
  Utf8.lossy (List.intercalate [FilePath.slash] places)

variable {m : Type → Type} [Monad m]

/-- The path at which the file is, which may be the one with `.toml` at its end. -/
def find (host : Host m) (source : Source) : m (Option String) := do
  if ← host.isFile source.path then return some source.path
  match withExtension source.path with
  | none => return none
  | some path => return if ← host.isFile path then some path else none

/-- The text of the file and the name by which messages call it. -/
def text (host : Host m) (source : Source) : m (Except Error (String × String)) := do
  match ← source.find host with
  | none => return .error (.missingFile source.path)
  | some path =>
    match ← host.read path with
    | .error error => return .error (.unreadable error.message)
    | .ok bytes =>
      match Utf8.decode bytes with
      | .error _ => return .error .notText
      | .ok text => return .ok (label (← host.workingDirectory) path, text)

/-- The layer of a document, with the name of its file if it comes from one. -/
def layer (label : Option String) (text : String) : Except Error Layer :=
  match Toml.parse text with
  | none => .error (.document (label.getD ""))
  | some entries => .ok (fieldsOfToml label entries)

/-- Reads the layer of the file. -/
def fetch (host : Host m) (source : Source) : m (Except Error Layer) := do
  match ← source.text host with
  | .ok (label, text) => return layer label text
  | .error error => return if source.required then .error error else .ok []

/-- Reads the layers of some files up to the first that fails. -/
def fetchAll (host : Host m) : List Source → m (Except Error (List Layer))
  | [] => return .ok []
  | source :: rest => do
    match ← source.fetch host with
    | .error error => return .error error
    | .ok layer => return (← fetchAll host rest).map (layer :: ·)

end Source

/-- A single value that overrides files. -/
abbrev Override := KeyPath × Value

/-- Puts the values of a layer over what is there. A name that spells a path stands for it. -/
def putLayer (root : Value) (layer : Layer) : Value :=
  layer.foldl
    (fun root entry =>
      match KeyPath.parse entry.1 with
      | some path => path.set entry.2 root
      | none => Value.place entry.1 entry.2 root)
    root

end AstView.Settings

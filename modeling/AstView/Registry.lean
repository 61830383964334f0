import AstView.FilePath
import AstView.Format

/-!
# The registry of formats

A registry holds formats under their names. Registering a format takes the place of the one of
the same name. The format of an output file is the one asked for, else the first, in the order
of the names, that lists the extension of the file, else a fallback; whichever it is has to be
registered.
-/
namespace AstView

/-- Formats under their names. -/
structure Registry where
  /-- The formats. -/
  formats : NameMap Format := .empty
  /-- Every format is under its own name. -/
  named : ∀ pair ∈ formats.entries, pair.2.name = pair.1 := by exact fun _ member => nomatch member

namespace Registry

/-- The registry without formats. -/
def empty : Registry := {}

instance : Inhabited Registry := ⟨empty⟩

/-- Adds a format, in the place of the one of the same name. -/
def register (registry : Registry) (format : Format) : Registry where
  formats := registry.formats.insert format.name format
  named pair member := by
    rcases NameMap.of_mem_insertPair member with same | earlier
    · exact same ▸ rfl
    · exact registry.named pair earlier

/-- The registry with the built-in formats. -/
def withDefaults : Registry := Format.builtIn.foldl register empty

/-- The names of the formats in order. -/
def names (registry : Registry) : List String := registry.formats.names

/-- Whether there is a format of a name. -/
def has (registry : Registry) (name : String) : Bool := registry.formats.contains name

/-- The format of a name. -/
def get (registry : Registry) (name : String) : Except Error Format :=
  match registry.formats.get? name with
  | some format => .ok format
  | none => .error (.formatNotFound name)

/-- Whether a format lists the extension of a file. -/
def lists (format : Format) (file : String) : Bool :=
  match FilePath.extension (Utf8.encode file) with
  | none => false
  | some extension => format.extensions.any fun text => Utf8.encode text == extension

/-- The name of the first format that lists the extension of a file. -/
def detect (registry : Registry) (file : String) : Option String :=
  (registry.formats.values.find? fun format => lists format file).map (·.name)

/-- The name of the format for an output file. -/
def resolve (registry : Registry) (explicit : Option String) (file fallback : String) :
    Except Error String :=
  let name := explicit.getD ((registry.detect file).getD fallback)
  (registry.get name).map fun _ => name

/-- Writes a document under a name to a sink in the format of a name. -/
def write (registry : Registry) (format : String) (document : Document) (label : String)
    (sink : Sink) : Sink × Except Error Unit :=
  match registry.get format with
  | .ok format => format.write document label sink
  | .error error => (sink, .error error)

/-- The emitter of a document under a name in the format of a name, with parameters. -/
def renderWith (registry : Registry) (format : String) (parameters : Parameters)
    (document : Document) (label : String) : Except Error (Emitter Error Unit) := do
  let format ← registry.get format
  (format.renderWith parameters document label).mapError Error.ofRefusal

/-- Writes a document under a name to a sink in the format of a name, with parameters. -/
def writeWith (registry : Registry) (format : String) (parameters : Parameters)
    (document : Document) (label : String) (sink : Sink) : Sink × Except Error Unit :=
  match registry.renderWith format parameters document label with
  | .ok emitter => sink.run emitter
  | .error error => (sink, .error error)

end Registry

end AstView

import AstView.CommandLine.Event
import AstView.CommandLine.Request
import AstView.Loading
import AstView.Registry
import AstView.Settings

/-!
# Conversions

A conversion reads a document from one file and writes it to another in a format. The format is
chosen before any file is touched, and the output file is made only after the input has been
read. Making it empties it, so parameters that the format refuses leave an empty file behind.

Some parameters stand for settings. They are taken out of the parameters and change the
settings, from which the format gets them back; the other parameters reach it as they are.
-/
namespace AstView.CommandLine

/-- The settings changed by a parameter that stands for one of them. -/
def takeFlag (settings : Settings) (parameters : Parameters) (name key : String)
    (change : Bool → Settings) : Except Refusal (Settings × Parameters) :=
  match parameters.get? key with
  | none => .ok (settings, parameters)
  | some text =>
    (Parameters.readFlag name text).map fun value => (change value, parameters.erase key)

/-- Changes the settings by the parameters that stand for them, and leaves the other ones. The
identifiers of a tree view have a short name too, which is left alone if the long one is there. -/
def applyOverrides (settings : Settings) (parameters : Parameters) :
    Except Refusal (Settings × Parameters) := do
  let (settings, parameters) ← takeFlag settings parameters "escape-labels" "escape-labels"
    fun value => { settings with escapeLabels := value }
  let (settings, parameters) ← takeFlag settings parameters "show-ids"
    (if parameters.contains "show-ids" then "show-ids" else "ids")
    fun value => { settings with showIds := value }
  takeFlag settings parameters "pretty" "pretty" fun value => { settings with pretty := value }

/-- The parameters for a format: those that the settings say, and in their place the given ones
where both have a name. -/
def formatParameters (settings : Settings) (format : String) (parameters : Parameters) :
    Parameters :=
  (settings.parametersFor format).override parameters

/-- What a conversion has told of, and how it ended. -/
structure Report where
  /-- The events in order. -/
  events : List Event
  /-- How it ended. -/
  result : Except Error Unit

/-- The event at the beginning of a rendering. -/
def renderEvents (format label : String) (document : Document) : List Event :=
  if format = "dot" then [.graph label document.calls.length document.streams.length] else []

variable {m : Type → Type} [Monad m]

/-- Renders a document into a file. What is rendered is gathered and added to the file at once. -/
def writeFile (host : Host m) (output format label : String) (parameters : Parameters)
    (document : Document) : m Report := do
  match ← host.create output with
  | .error error => return ⟨[], .error (.outputCreate output error.message)⟩
  | .ok () =>
    match Registry.withDefaults.renderWith format parameters document label with
    | .error error => return ⟨[], .error error⟩
    | .ok emitter =>
      let (gathered, rendered) := Sink.memory.run emitter
      let added ← host.append output gathered.written
      return ⟨renderEvents format label document,
        rendered.bind fun () => added.mapError fun error => .write error.message⟩

/-- Converts a file into another one, in the format that the settings and the request come to. -/
def convertFile (host : Host m) (input output : String) (format : Option String)
    (settings : Settings) (parameters : Parameters) : m Report := do
  match Registry.withDefaults.resolve format output settings.defaultFormat with
  | .error error => return ⟨[], .error error⟩
  | .ok format =>
    match ← Document.loadPath host input with
    | .error error => return ⟨[], .error error⟩
    | .ok (bytes, document) =>
      let report ← writeFile host output format (FilePath.astName (Utf8.encode input))
        (formatParameters settings format parameters) document
      return { report with events := .ofDocument bytes document :: report.events }

/-- Converts the file of a request, which must have both paths. -/
def convert (host : Host m) (request : Request) (settings : Settings) (parameters : Parameters) :
    m Report :=
  match request.input, request.output with
  | some input, some output =>
    convertFile host input output request.format settings parameters
  | _, _ =>
    return ⟨[], .error (.notSupported "both <input> and <output> are required")⟩

end AstView.CommandLine

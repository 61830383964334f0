import AstView.CommandLine.Conversion
import AstView.CommandLine.Extras

/-!
# Runs

A run splits the extra arguments off, reads the request out of the others, and lists the formats
or converts a file. The settings come from a file of a fixed name in the working directory, if
it is there, and from the file of the request; extra arguments change them. Everything that goes
wrong ends the run with a text on the error stream and a code other than zero.
-/
namespace AstView.CommandLine

/-- The file with settings that counts without being named. -/
def localSettingsFile : String := "animagus-dot.toml"

/-- How a run ends. -/
structure Outcome where
  /-- The code with which the program ends. -/
  exitCode : Nat := 0
  /-- The text on the output stream. -/
  output : String := ""
  /-- What the run has told of, before the text on the error stream. -/
  events : List Event := []
  /-- The text on the error stream. -/
  complaint : String := ""
  deriving Repr, DecidableEq

/-- Why a run fails. -/
inductive Failure where
  /-- The arguments come to no request. -/
  | usage (error : UsageError)
  /-- The settings cannot be loaded. -/
  | settings (error : Settings.Error)
  /-- An extra argument that stands for a setting is no truth value. -/
  | override (refusal : Refusal)

/-- A text with blanks after it up to a width. -/
def padded (width : Nat) (text : String) : String :=
  text ++ String.ofList (List.replicate (width - text.length) ' ')

/-- The line of a format in the list of formats. -/
def formatLine (format : Format) : String :=
  "  " ++ padded 10 format.name ++ " " ++ format.description ++ " (."
    ++ String.intercalate ", ." format.extensions ++ ")\n"

/-- The list of formats. -/
def formatList (registry : Registry) : String :=
  "Available formats:\n\n" ++ String.join (registry.formats.values.map formatLine)

/-- The text about an extra argument that is no truth value. -/
def overrideMessage : Refusal → String
  | .notBoolean text key => s!"Invalid boolean value '{text}' for --extra-{key}"
  | refusal => refusal.message

/-- How a run ends that fails before a conversion. -/
def Failure.outcome : Failure → Outcome
  | usage error =>
    if error.isAnswer then { exitCode := error.exitCode, output := error.message }
    else { exitCode := error.exitCode, complaint := error.message }
  | settings error =>
    { exitCode := 1, complaint := "Failed to load configuration: " ++ error.message ++ "\n" }
  | override refusal => { exitCode := 1, complaint := overrideMessage refusal ++ "\n" }

/-- How a run ends with a conversion. -/
def Report.outcome (report : Report) : Outcome :=
  match report.result with
  | .ok () => { events := report.events }
  | .error error =>
    { exitCode := 1, events := report.events, complaint := "Error: " ++ error.message ++ "\n" }

/-- The layers of settings of a run. -/
def settingsLoader (file : Option String) : Settings.Loader :=
  let loader := Settings.Loader.withOptionalFile {} localSettingsFile
  match file with
  | some path => loader.withFile path
  | none => loader

variable {m : Type → Type} [Monad m]

/-- Loads the settings and converts the file of a request. -/
def runRequest (host : Host m) (request : Request) (extras : Parameters) :
    m (Except Failure Report) := do
  match ← (settingsLoader request.settings).build host with
  | .error error => return .error (.settings error)
  | .ok settings =>
    match applyOverrides settings extras with
    | .error refusal => return .error (.override refusal)
    | .ok (settings, parameters) => return .ok (← convert host request settings parameters)

/-- Runs the program with its arguments. -/
def run (host : Host m) (arguments : List String) : m Outcome := do
  let (kept, extras) := splitExtras arguments
  match Request.parse kept with
  | .error error => return (Failure.usage error).outcome
  | .ok request =>
    if request.listFormats then return { output := formatList Registry.withDefaults }
    else
      match ← runRequest host request extras with
      | .error failure => return failure.outcome
      | .ok report => return report.outcome

end AstView.CommandLine

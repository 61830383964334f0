import AstView.CommandLine.Help
import AstView.Text.Terminal

/-!
# Requests

The arguments that are kept say what the user wants: an input path and an output path, the name
of a format, the path of a file with settings, or the list of formats. They are read one by one.
Options that take a value have it after an equals sign or as the next argument; after two
hyphens every argument is a path.

A value given as the next argument is only taken in when something else comes up, so an error in
that later argument can come first.
-/
namespace AstView.CommandLine

/-- What the user wants. -/
structure Request where
  /-- The path of the file to read. -/
  input : Option String := none
  /-- The path of the file to write. -/
  output : Option String := none
  /-- The name of the format to write. -/
  format : Option String := none
  /-- The path of a file with settings. -/
  settings : Option String := none
  /-- Whether the formats are to be listed. -/
  listFormats : Bool := false
  deriving Repr, DecidableEq, Inhabited

/-- The options that take a value. -/
inductive ValueOption where
  /-- The format to write. -/
  | format
  /-- The file with settings. -/
  | settings
  deriving Repr, DecidableEq

/-- The text of an option with its value in messages. -/
def ValueOption.text : ValueOption → String
  | format => "--to <to>"
  | settings => "--config <PATH>"

/-- Why arguments do not come to a request. -/
inductive UsageError where
  /-- The user asks for help, for the long text or for the short one. -/
  | help (long : Bool)
  /-- The user asks for the version. -/
  | version
  /-- There are no arguments. -/
  | nothing
  /-- An argument has no meaning. -/
  | unknown (argument : String)
  /-- An option comes twice. -/
  | repeated (option : String)
  /-- A value stands at an option that takes none. -/
  | needless (value option : String)
  /-- An option has no value. -/
  | valueless (option : String)
  /-- The input path or the output path is missing. -/
  | incomplete
  deriving Repr, DecidableEq

namespace UsageError

/-- Whether the user has got what was asked for. -/
def isAnswer : UsageError → Bool
  | help _ => true
  | version => true
  | _ => false

/-- The code with which the program ends. -/
def exitCode (error : UsageError) : Nat := if error.isAnswer then 0 else 2

/-- The first line of a message about wrong usage. What the user has typed is repeated without
commands to the terminal. -/
def summary : UsageError → String
  | unknown argument => "unexpected argument '" ++ Text.withoutCommands argument ++ "' found"
  | repeated option => "the argument '" ++ option ++ "' cannot be used multiple times"
  | needless value option =>
    "unexpected value '" ++ Text.withoutCommands value ++ "' for '" ++ option
      ++ "' found; no more were expected"
  | valueless option => "a value is required for '" ++ option ++ "' but none was supplied"
  | incomplete => "the following required arguments were not provided:"
  | _ => ""

/-- The text that the user gets. -/
def message : UsageError → String
  | help long => if long then longHelp else shortHelp
  | version => versionText
  | nothing => shortHelp
  | error => "error: " ++ error.summary ++ usageHint

end UsageError

/-- What has been read. -/
structure Progress where
  /-- The request so far. -/
  request : Request := {}
  /-- An option not taken in yet, with its value if that has been read. -/
  pending : Option (ValueOption × Option String) := none
  /-- Whether every further argument is a path. -/
  literal : Bool := false
  deriving Repr, DecidableEq

namespace Progress

/-- Takes in an option with its value. -/
def accept (progress : Progress) (option : ValueOption) (value : String) :
    Except UsageError Progress :=
  let request := progress.request
  match option with
  | .format =>
    if request.format.isSome then .error (.repeated option.text)
    else .ok { progress with request := { request with format := some value } }
  | .settings =>
    if request.settings.isSome then .error (.repeated option.text)
    else .ok { progress with request := { request with settings := some value } }

/-- Takes in the option that has been read, which must have a value by now. -/
def settle (progress : Progress) : Except UsageError Progress :=
  match progress.pending with
  | none => .ok progress
  | some (option, none) => .error (.valueless option.text)
  | some (option, some value) => { progress with pending := none }.accept option value

/-- Reads an option that takes a value, which may stand after an equals sign. -/
def readValueOption (progress : Progress) (option : ValueOption) (value : Option String) :
    Except UsageError Progress := do
  let progress ← progress.settle
  match value with
  | some value => progress.accept option value
  | none => return { progress with pending := some (option, none) }

/-- Reads an option that takes no value. -/
def readSwitch (progress : Progress) (name : String) (value : Option String)
    (next : Progress → Except UsageError Progress) : Except UsageError Progress :=
  match value with
  | some value => .error (.needless value name)
  | none => progress.settle >>= next

/-- Reads an option of two hyphens by its name and what stands after an equals sign. -/
def readLong (progress : Progress) (name : String) (value : Option String) :
    Except UsageError Progress :=
  match name with
  | "to" => progress.readValueOption .format value
  | "config" => progress.readValueOption .settings value
  | "list-formats" => progress.readSwitch "--list-formats" value fun progress =>
      if progress.request.listFormats then .error (.repeated "--list-formats")
      else .ok { progress with request := { progress.request with listFormats := true } }
  | "help" => progress.readSwitch "--help" value fun _ => .error (.help true)
  | "version" => progress.readSwitch "--version" value fun _ => .error .version
  | _ => .error (.unknown ("--" ++ name))

/-- Reads options of one hyphen, of which only the first letter matters. -/
def readShort (progress : Progress) (letter : Char) : Except UsageError Progress :=
  match letter with
  | 'h' => progress.settle >>= fun _ => .error (.help false)
  | 'V' => progress.settle >>= fun _ => .error .version
  | _ => .error (.unknown (String.ofList ['-', letter]))

/-- Reads a path. -/
def readPath (progress : Progress) (path : String) : Except UsageError Progress :=
  if progress.request.output.isSome then .error (.unknown path)
  else do
    let progress ← progress.settle
    let request := progress.request
    if request.input.isSome then
      return { progress with request := { request with output := some path } }
    else return { progress with request := { request with input := some path } }

/-- Reads a value of the option before it, or a path. -/
def readPlain (progress : Progress) (argument : String) : Except UsageError Progress :=
  match progress.pending with
  | some (option, none) => .ok { progress with pending := some (option, some argument) }
  | _ => progress.readPath argument

/-- Splits characters at the first equals sign, which belongs to neither part. -/
def splitEquals (chars : List Char) : String × Option String :=
  match chars.dropWhile (· != '=') with
  | [] => (String.ofList chars, none)
  | _ :: value => (String.ofList (chars.takeWhile (· != '=')), some (String.ofList value))

/-- Reads an argument. -/
def read (progress : Progress) (argument : String) : Except UsageError Progress :=
  if progress.literal then progress.readPath argument
  else
    match argument.toList with
    | ['-', '-'] => .ok { progress with literal := true }
    | '-' :: '-' :: option =>
      let (name, value) := splitEquals option
      progress.readLong name value
    | '-' :: letter :: _ => progress.readShort letter
    | _ => progress.readPlain argument

end Progress

namespace Request

/-- Whether the user wants anything. -/
def isEmpty (request : Request) : Bool := request == {}

/-- Reads a request from the arguments. -/
def parse (arguments : List String) : Except UsageError Request := do
  let progress ← arguments.foldlM Progress.read {}
  let request := (← progress.settle).request
  if request.isEmpty then throw .nothing
  else if !request.listFormats && (request.input.isNone || request.output.isNone) then
    throw .incomplete
  else return request

end Request

end AstView.CommandLine

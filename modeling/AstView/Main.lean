import AstView.CommandLine.Run

/-!
# The program

Runs the command line on the real file system. Nothing is decided here: arguments and files go
in, and the outcome comes out on the streams and as the code with which the program ends. The
events of the run are told if the environment asks for them.
-/
open AstView

/-- The bytes of an array in order. -/
def bytesOfArray (array : ByteArray) : Bytes := array.data.toList

/-- The array of some bytes. -/
def arrayOfBytes (bytes : Bytes) : ByteArray := ⟨bytes.toArray⟩

/-- The failure that the system gives a number and a description. Some of its operations give
the number with a minus. -/
def fileErrorOfCode (code : UInt32) (details : String) : FileError :=
  let code := if 2147483648 ≤ code then 0 - code else code
  match code with
  | 2 => .missing
  | 12 => .noMemory
  | 20 => .notDirectory
  | 21 => .isDirectory
  | 28 => .noSpace
  | 36 => .nameTooLong
  | _ => .other s!"{details} (os error {code})"

/-- The failure that an error of the system stands for. -/
def fileErrorOf : IO.Error → FileError
  | .noFileOrDirectory _ code details => fileErrorOfCode code details
  | .inappropriateType _ code details => fileErrorOfCode code details
  | .invalidArgument _ code details => fileErrorOfCode code details
  | .permissionDenied _ code details => fileErrorOfCode code details
  | .resourceExhausted _ code details => fileErrorOfCode code details
  | .otherError code details => fileErrorOfCode code details
  | error => .other (toString error)

/-- An operation on files that may fail. -/
def attempt {α : Type} (operation : IO α) : IO (Except FileError α) := do
  try
    return .ok (← operation)
  catch error =>
    return .error (fileErrorOf error)

/-- The host whose files are those of the system. -/
def systemHost : Host IO where
  read path := do
    if path.toList.contains '\x00' then return .error .zeroByte
    else if path.isEmpty then return .error .missing
    else attempt do return bytesOfArray (← IO.FS.readBinFile path)
  isFile path := do
    try
      return (← ((← IO.currentDir) / path).metadata).type == .file
    catch _ => return false
  create path := do
    if path.toList.contains '\x00' then return .error .zeroByte
    else if path.isEmpty then return .error .missing
    else attempt do
      let _ ← IO.FS.Handle.mk path .write
  append path bytes := attempt do
    let handle ← IO.FS.Handle.mk path .append
    handle.write (arrayOfBytes bytes)
    handle.flush
  workingDirectory := do
    return (FilePath.segments (Utf8.encode (← IO.currentDir).toString)).filter (!·.isEmpty)

/-- The variable of the environment that asks for the events of a run. -/
def eventsVariable : String := "AST_VIEW_EVENTS"

def main (arguments : List String) : IO UInt32 := do
  let outcome ← CommandLine.run systemHost arguments
  IO.print outcome.output
  if (← IO.getEnv eventsVariable).isSome then
    IO.eprint (String.join (outcome.events.map fun event => event.text ++ "\n"))
  IO.eprint outcome.complaint
  return outcome.exitCode.toUInt32

import AstView.Bytes

/-!
# The host of the program

All that the program does to its surroundings goes through five operations on files. A host
provides them in a monad of its own: the program runs on a file system in memory and on the
real one alike.
-/
namespace AstView

/-- Why an operation on a file fails. -/
inductive FileError where
  /-- Nothing is there. -/
  | missing
  /-- The path leads through something that is no directory. -/
  | notDirectory
  /-- A directory is there. -/
  | isDirectory
  /-- The path or one of its segments is too long. -/
  | nameTooLong
  /-- The device takes no more bytes. -/
  | noSpace
  /-- What would be read does not fit in memory. -/
  | noMemory
  /-- The path has a byte zero in it. -/
  | zeroByte
  /-- Any other reason. -/
  | other (reason : String)
  deriving Repr, DecidableEq

/-- The text of a failure, with the number that the system gives it. -/
def FileError.message : FileError → String
  | missing => "No such file or directory (os error 2)"
  | notDirectory => "Not a directory (os error 20)"
  | isDirectory => "Is a directory (os error 21)"
  | nameTooLong => "File name too long (os error 36)"
  | noSpace => "No space left on device (os error 28)"
  | noMemory => "Cannot allocate memory (os error 12)"
  | zeroByte => "file name contained an unexpected NUL byte"
  | other reason => reason

/-- Operations on files in a monad. -/
structure Host (m : Type → Type) where
  /-- Reads a file. -/
  read : String → m (Except FileError Bytes)
  /-- Whether a path leads to a regular file. -/
  isFile : String → m Bool
  /-- Makes an empty file, or empties the one that is there. -/
  create : String → m (Except FileError Unit)
  /-- Adds bytes to the end of a file. -/
  append : String → Bytes → m (Except FileError Unit)
  /-- The directory that relative paths start from, by its segments. -/
  workingDirectory : m (List Bytes)

end AstView

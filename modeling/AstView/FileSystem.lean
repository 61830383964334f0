import AstView.FilePath
import AstView.Host

/-!
# A file system in memory

A file system has a working directory and maps locations to what is there: directories, regular
files and two devices, one that takes every byte and has none, and one that takes no byte and has
no end of them. A location is a list of segments from the root. A path leads through it segment
by segment: empty segments and single dots stay, two dots go up, and any other segment goes down
to what has to be there. Making a file asks only for the directory to be there.
-/
namespace AstView

/-- The segments of the way from the root. -/
abbrev Location := List Bytes

/-- What is at a location. -/
inductive Inode where
  /-- A directory. -/
  | directory
  /-- A regular file and its content. -/
  | file (content : Bytes)
  /-- The device that takes every byte. -/
  | null
  /-- The device that takes no byte. -/
  | full
  deriving Repr, DecidableEq

/-- What is where. -/
structure FileSystem where
  /-- The directory that relative paths start from. -/
  workingDirectory : Location := []
  /-- What is at the locations below the root, no location twice. -/
  inodes : List (Location × Inode) := []
  deriving Repr, DecidableEq

namespace FileSystem

/-- The longest segment. -/
def segmentLimit : Nat := 255

/-- The longest path. -/
def pathLimit : Nat := 4095

/-- What is at a location. The root is a directory. -/
def at? (files : FileSystem) (location : Location) : Option Inode :=
  if location.isEmpty then some .directory
  else (files.inodes.find? fun entry => entry.1 == location).map (·.2)

/-- Puts something at a location, in the place of what is there. -/
def putInode (location : Location) (inode : Inode) :
    List (Location × Inode) → List (Location × Inode)
  | [] => [(location, inode)]
  | head :: rest =>
    if head.1 = location then (location, inode) :: rest
    else head :: putInode location inode rest

/-- Puts something at a location, in the place of what is there. -/
def put (files : FileSystem) (location : Location) (inode : Inode) : FileSystem :=
  { files with inodes := putInode location inode files.inodes }

/-- Whether a directory is at a location. -/
def isDirectoryAt (files : FileSystem) (location : Location) : Bool :=
  files.at? location == some .directory

/-- The location to which segments lead from another one. -/
def walk (files : FileSystem) (here : Location) : List Bytes → Except FileError Location
  | [] => .ok here
  | segment :: rest =>
    if !files.isDirectoryAt here then .error .notDirectory
    else if FilePath.isHere segment then files.walk here rest
    else if FilePath.isUp segment then files.walk here.dropLast rest
    else if segmentLimit < segment.length then .error .nameTooLong
    else if (files.at? (here ++ [segment])).isSome then files.walk (here ++ [segment]) rest
    else .error .missing

/-- Where a path starts. A path has at least one byte, none that is zero, and not too many. -/
def start (files : FileSystem) (path : Bytes) : Except FileError Location :=
  if path.contains 0 then .error .zeroByte
  else if path.isEmpty then .error .missing
  else if pathLimit < path.length then .error .nameTooLong
  else .ok (if path.head? = some FilePath.slash then [] else files.workingDirectory)

/-- The location to which a path leads. -/
def locate (files : FileSystem) (path : String) : Except FileError Location := do
  let bytes := Utf8.encode path
  let here ← files.start bytes
  files.walk here (FilePath.segments bytes)

/-- The location at which a file can be made, or emptied if it is there. A slash at the end asks
for a directory. -/
def place (files : FileSystem) (path : String) : Except FileError Location := do
  let bytes := Utf8.encode path
  let here ← files.start bytes
  let segments := FilePath.segments bytes
  match segments.reverse.dropWhile (·.isEmpty) with
  | [] => .error .isDirectory
  | last :: before =>
    if FilePath.isHere last || FilePath.isUp last then
      let _ ← files.walk here segments
      .error .isDirectory
    else
      let parent ← files.walk here before.reverse
      if !files.isDirectoryAt parent then .error .notDirectory
      else if bytes.getLast? = some FilePath.slash then .error .isDirectory
      else if segmentLimit < last.length then .error .nameTooLong
      else .ok (parent ++ [last])

/-- The content of the file to which a path leads. -/
def read (files : FileSystem) (path : String) : Except FileError Bytes := do
  match files.at? (← files.locate path) with
  | some (.file content) => .ok content
  | some .null => .ok []
  | some .full => .error .noMemory
  | some .directory => .error .isDirectory
  | none => .error .missing

/-- Whether a path leads to a regular file. -/
def isFile (files : FileSystem) (path : String) : Bool :=
  match (files.locate path).toOption.bind files.at? with
  | some (.file _) => true
  | _ => false

/-- Makes an empty file, or empties the one that is there. -/
def create (files : FileSystem) (path : String) : Except FileError FileSystem := do
  let location ← files.place path
  match files.at? location with
  | some .directory => .error .isDirectory
  | some .null => .ok files
  | some .full => .ok files
  | _ => .ok (files.put location (.file []))

/-- Adds bytes to the end of a file that is there. -/
def append (files : FileSystem) (path : String) (bytes : Bytes) : Except FileError FileSystem := do
  let location ← files.locate path
  match files.at? location with
  | some (.file content) => .ok (files.put location (.file (content ++ bytes)))
  | some .null => .ok files
  | some .full => if bytes.isEmpty then .ok files else .error .noSpace
  | some .directory => .error .isDirectory
  | none => .error .missing

/-- An operation that changes the file system if it succeeds. -/
def changing (operation : FileSystem → Except FileError FileSystem) :
    StateM FileSystem (Except FileError Unit) := fun files =>
  match operation files with
  | .ok changed => (.ok (), changed)
  | .error error => (.error error, files)

/-- The host whose files are in memory. -/
def host : Host (StateM FileSystem) where
  read path files := (files.read path, files)
  isFile path files := (files.isFile path, files)
  create path := changing fun files => files.create path
  append path bytes := changing fun files => files.append path bytes
  workingDirectory files := (files.workingDirectory, files)

/-- Makes directories where nothing is yet on a way from a location, and tells where the way
leads. Two dots go up from what has been made before them. -/
def makeWay (files : FileSystem) (here : Location) : List Bytes → FileSystem × Location
  | [] => (files, here)
  | segment :: rest =>
    if FilePath.isHere segment then files.makeWay here rest
    else if FilePath.isUp segment then files.makeWay here.dropLast rest
    else
      let there := here ++ [segment]
      let files := if (files.at? there).isSome then files else files.put there .directory
      files.makeWay there rest

/-- A directory at a relative path, with the directories on the way to it. -/
def withDirectory (files : FileSystem) (path : String) : FileSystem :=
  (files.makeWay files.workingDirectory (FilePath.segments (Utf8.encode path))).1

/-- A file at a relative path, with the directories on the way to it. -/
def withFile (files : FileSystem) (path : String) (content : Bytes) : FileSystem :=
  match (FilePath.segments (Utf8.encode path)).reverse with
  | [] => files
  | last :: before =>
    let (files, parent) := files.makeWay files.workingDirectory before.reverse
    files.put (parent ++ [last]) (.file content)

/-- The regular files below the working directory, with their relative paths. -/
def contents (files : FileSystem) : List (Bytes × Bytes) :=
  files.inodes.filterMap fun entry =>
    match entry.2 with
    | .file content =>
      if files.workingDirectory.isPrefixOf entry.1 then
        let segments := entry.1.drop files.workingDirectory.length
        some (List.intercalate [FilePath.slash] segments, content)
      else none
    | _ => none

/-- A file system with the two devices and an empty working directory. -/
def scratch : FileSystem :=
  let device := Utf8.encode "dev"
  let work := [Utf8.encode "work"]
  ⟨work, [([device], .directory), ([device, Utf8.encode "null"], .null),
    ([device, Utf8.encode "full"], .full), (work, .directory)]⟩

end FileSystem

end AstView

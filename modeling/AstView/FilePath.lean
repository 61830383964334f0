import AstView.Text.Utf8

/-!
# Paths of files

A path is a list of bytes, with a slash between its segments. The file name is the last
segment; empty segments and single dots at the end are left out, and a path that ends in two
dots has none. The extension is what follows the last dot of the file name, unless that dot
comes first.
-/
namespace AstView.FilePath

/-- Splits a list at its last mark, which belongs to neither part. -/
def splitLast {α : Type} [DecidableEq α] (mark : α) : List α → Option (List α × List α)
  | [] => none
  | head :: rest =>
    match splitLast mark rest with
    | some (before, after) => some (head :: before, after)
    | none => if head = mark then some ([], rest) else none

/-- The byte between segments. -/
def slash : UInt8 := 47

/-- The byte before an extension. -/
def dot : UInt8 := 46

/-- The segments of a path, the empty ones included. -/
def segments : Bytes → List Bytes
  | [] => [[]]
  | next :: rest =>
    if next = slash then [] :: segments rest
    else
      match segments rest with
      | [] => [[next]]
      | first :: others => (next :: first) :: others

/-- Whether a segment stands for the place that it is in. -/
def isHere (segment : Bytes) : Bool := segment == [] || segment == [dot]

/-- Whether a segment stands for the place above. -/
def isUp (segment : Bytes) : Bool := segment == [dot, dot]

/-- The last segment that leads to another place, if it leads down. -/
def fileName (path : Bytes) : Option Bytes :=
  match (segments path).reverse.dropWhile isHere with
  | [] => none
  | last :: _ => if isUp last then none else some last

/-- What follows the last dot of the file name. -/
def extension (path : Bytes) : Option Bytes :=
  match (fileName path).bind (splitLast dot) with
  | none => none
  | some ([], _) => none
  | some (_, after) => some after

/-- The name under which the document of a file is shown: the file name up to its last dot, or
all of it, with U+FFFD for what is not UTF-8. -/
def astName (path : Bytes) : String :=
  let name := ((fileName path).map Utf8.lossy).getD ""
  match splitLast '.' name.toList with
  | some (before, _) => String.ofList before
  | none => name

end AstView.FilePath

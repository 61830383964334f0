import AstView.Document
import AstView.Text.Quoted

/-!
# Events of a run

A run can be asked to tell what it does. It tells of two things: a document that has been read,
and a graph about to be written.
-/
namespace AstView.CommandLine

/-- What a run tells of. -/
inductive Event where
  /-- A document has been read from a number of bytes. -/
  | decoded (bytes calls streams values : Nat)
  /-- The graph of a document is about to be written under a name. -/
  | graph (name : String) (calls streams : Nat)
  deriving Repr, DecidableEq

namespace Event

/-- The event of a document that has been read. -/
def ofDocument (bytes : Bytes) (document : Document) : Event :=
  .decoded bytes.length document.calls.length document.streams.length document.valueCount

/-- The line that tells of an event. -/
def text : Event → String
  | decoded bytes calls streams values =>
    "DEBUG animagus_dot::loader: decoded AST document bytes=" ++ toString bytes ++ " calls="
      ++ toString calls ++ " streams=" ++ toString streams ++ " values=" ++ toString values
  | graph name calls streams =>
    "DEBUG animagus_dot::formats::dot: emitting dot graph ast_name=" ++ Text.quoted name
      ++ " calls=" ++ toString calls ++ " streams=" ++ toString streams

end Event

end AstView.CommandLine

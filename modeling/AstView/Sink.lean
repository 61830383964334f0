import AstView.Bytes

/-!
# Sinks

A rendering is a list of pieces that are written one after the other. A sink takes the bytes of
a piece as long as it has room; a piece that does not fit is taken as far as it does, and then
writing fails. A piece without bytes needs no room. After a failure nothing more is written.
-/
namespace AstView

/-- The pieces of an output in the order in which they are written. -/
abbrev Rendering := List Bytes

/-- All bytes of a rendering. -/
def Rendering.bytes (rendering : Rendering) : Bytes := rendering.flatten

/-- What a sink does when it has no room left. -/
inductive Exhaustion where
  /-- It refuses bytes for a reason. -/
  | refuses (reason : String)
  /-- It takes none and gives no reason. -/
  | stalls
  deriving Repr, DecidableEq

/-- The text of a failed write. -/
def Exhaustion.message : Exhaustion → String
  | refuses reason => reason
  | stalls => "failed to write whole buffer"

/-- Where bytes are written to. -/
structure Sink where
  /-- The pieces taken so far, the last one first. -/
  taken : List Bytes := []
  /-- How many more bytes it takes, if there is an end to them. -/
  room : Option Nat := none
  /-- What it does after that. -/
  exhaustion : Exhaustion := .stalls
  deriving Repr

namespace Sink

/-- A sink in memory takes every byte. -/
def memory : Sink := {}

/-- A sink that takes a number of bytes and then fails. -/
def limited (room : Nat) (exhaustion : Exhaustion) : Sink := ⟨[], some room, exhaustion⟩

/-- The bytes taken so far. -/
def written (sink : Sink) : Bytes := sink.taken.reverse.flatten

/-- Writes a piece, and says how that failed if it did. -/
def write (sink : Sink) (piece : Bytes) : Sink × Option Exhaustion :=
  match sink.room with
  | none => ({ sink with taken := piece :: sink.taken }, none)
  | some room =>
    if piece.length ≤ room then
      ({ sink with taken := piece :: sink.taken, room := some (room - piece.length) }, none)
    else
      ({ sink with taken := piece.take room :: sink.taken, room := some 0 },
        some sink.exhaustion)

/-- Writes pieces up to the first that fails. -/
def writeAll (sink : Sink) : Rendering → Sink × Option Exhaustion
  | [] => (sink, none)
  | piece :: rest =>
    match sink.write piece with
    | (sink, none) => sink.writeAll rest
    | (sink, some exhaustion) => (sink, some exhaustion)

end Sink

end AstView

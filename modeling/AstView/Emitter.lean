import AstView.Error
import AstView.Sink
import AstView.Text.Utf8

/-!
# Emitters

An emitter writes to a sink step by step. The first step that fails ends it, and what the sink has
taken by then stays there.
-/
namespace AstView

/-- A program that writes to a sink and may fail. -/
abbrev Emitter (ε α : Type) := ExceptT ε (StateM Sink) α

/-- An error in writing to a sink. -/
def Error.ofExhaustion (exhaustion : Exhaustion) : Error := .write exhaustion.message

namespace Emitter

/-- Writes a piece. -/
def piece (bytes : Bytes) : Emitter Exhaustion Unit := .mk fun sink =>
  match sink.write bytes with
  | (sink, none) => (.ok (), sink)
  | (sink, some exhaustion) => (.error exhaustion, sink)

/-- Writes a text in one piece. -/
def text (content : String) : Emitter Error Unit :=
  (piece (Utf8.encode content)).adapt Error.ofExhaustion

/-- Writes pieces one after the other. -/
def pieces (rendering : Rendering) : Emitter Error Unit :=
  rendering.forM fun bytes => (piece bytes).adapt Error.ofExhaustion

end Emitter

namespace Sink

/-- Runs an emitter, and says how that ended. -/
def run (sink : Sink) (emitter : Emitter Error Unit) : Sink × Except Error Unit :=
  (emitter.run.run sink).swap

/-- Writes a rendering to a sink. -/
def put (sink : Sink) (rendering : Rendering) : Sink × Except Error Unit :=
  match sink.writeAll rendering with
  | (sink, none) => (sink, .ok ())
  | (sink, some exhaustion) => (sink, .error (.ofExhaustion exhaustion))

end Sink

end AstView

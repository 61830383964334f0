import AstView.Emitter
import AstView.Json.Printer

/-!
# Serializing JSON

The serializer writes the tokens of a value to a sink one after the other. Apart from the sink, one
thing can go wrong. The members of an object can be merged into those of another one, and what is no
object cannot be merged.
-/
namespace AstView

namespace Json

/-- Why a value is not serialized. -/
inductive Fault where
  /-- The sink failed. -/
  | io (exhaustion : Exhaustion)
  /-- The value cannot be written in the form asked for. -/
  | data (reason : String)
  deriving Repr, DecidableEq

/-- Writes a token. -/
def emitToken (token : String) : Emitter Fault Unit :=
  (Emitter.piece (Utf8.encode token)).adapt .io

/-- Begins an item or a member. All but the first have a comma before them. -/
def emitStart (layout : Layout) (depth : Nat) (first : Bool) : Emitter Fault Unit := do
  if !first then emitToken ","
  emitToken (layout.lineBreak depth)

/-- Ends an array or an object, on a line of its own unless there is nothing in it. -/
def emitEnd (layout : Layout) (depth : Nat) (empty : Bool) (bracket : String) :
    Emitter Fault Unit := do
  if !empty then emitToken (layout.lineBreak depth)
  emitToken bracket

mutual

/-- Writes a value at a depth. -/
def Value.emit (layout : Layout) (depth : Nat) : Value → Emitter Fault Unit
  | .string text => emitToken (quote text)
  | .number value => emitToken (toString value)
  | .bool value => emitToken (if value then "true" else "false")
  | .array items => do
    emitToken "["
    let empty ← emitItems layout (depth + 1) true items
    emitEnd layout depth empty "]"
  | .object members => do
    emitToken "\x7b"
    let empty ← emitMembers layout (depth + 1) true members
    emitEnd layout depth empty "\x7d"

/-- Writes the items of an array, and tells whether the next item is the first one. -/
def emitItems (layout : Layout) (depth : Nat) (first : Bool) : List Value → Emitter Fault Bool
  | [] => return first
  | item :: rest => do
    emitStart layout depth first
    item.emit layout depth
    emitItems layout depth false rest

/-- Writes members of an object, and tells whether the next member is the first one. -/
def emitMembers (layout : Layout) (depth : Nat) (first : Bool) :
    List (String × Value) → Emitter Fault Bool
  | [] => return first
  | (name, value) :: rest => do
    emitStart layout depth first
    emitToken (quote name)
    emitToken layout.colon
    value.emit layout depth
    emitMembers layout depth false rest

end

/-- The fault of a value that has no members. -/
def Fault.unmergeable (found : String) : Fault :=
  .data ("can only flatten structs and maps (got " ++ found ++ ")")

/-- Writes the members of a value into the object around it. -/
def emitMerged (layout : Layout) (depth : Nat) (first : Bool) : Value → Emitter Fault Bool
  | .object members => emitMembers layout depth first members
  | .array _ => throw (.unmergeable "a sequence")
  | .string _ => throw (.unmergeable "a string")
  | .number _ => throw (.unmergeable "an integer")
  | .bool _ => throw (.unmergeable "a boolean")

end Json

/-- A sink that fails is a failed write. Any other fault is about the form. -/
def Error.ofFault : Json.Fault → Error
  | .io exhaustion => .ofExhaustion exhaustion
  | .data reason => .serialization reason

end AstView

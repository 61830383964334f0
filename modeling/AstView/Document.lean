import AstView.Kind
import AstView.Role
import AstView.Wire.Decode

/-!
# Documents

A document has calls and streams, each with a name and a tree of values. It is what the file
means: of the payload slot of a value on the wire it keeps what the type calls for, with zero,
false or no bytes where the slot holds something else, and a missing result or filter is the
empty value.
-/
namespace AstView

/-- A value: what it is and the values below it. -/
structure Tree where
  /-- What the value is. -/
  kind : Kind
  /-- The values below this one, in order. -/
  children : List Tree := []
  deriving Repr, Inhabited

/-- A call or a stream. -/
structure Entry where
  /-- The name of the entry. -/
  name : String
  /-- The result of a call or the filter of a stream. -/
  tree : Tree
  deriving Repr, Inhabited

/-- Calls and streams, each in order. -/
structure Document where
  /-- The calls. -/
  calls : List Entry := []
  /-- The streams. -/
  streams : List Entry := []
  deriving Repr, Inhabited

namespace Wire

/-- A slot holds a truth value only if it is one. -/
def slotFlag : Option Slot → Bool
  | some (.flag value) => value
  | _ => false

/-- A slot that is no number counts as zero. -/
def slotNumber : Option Slot → UInt64
  | some (.unsigned value) => value
  | _ => 0

/-- A slot that is no bytes counts as none. -/
def slotBytes : Option Slot → Bytes
  | some (.raw value) => value
  | _ => []

/-- The kind of a value takes from the slot what its type calls for. -/
def kindOf (tag : Int32) (slot : Option Slot) : Kind :=
  match Tag.ofCode tag with
  | .known .uint64 => .uint64 (slotNumber slot)
  | .known .arg => .arg (slotNumber slot)
  | .known .param => .param (slotNumber slot)
  | .known .bool => .bool (slotFlag slot)
  | .known .error => .error (slotBytes slot)
  | .known .bytes => .bytes (slotBytes slot)
  | tag => .node tag

end Wire

namespace Tree

/-- The tree of the empty value. -/
def nil : Tree := ⟨.nil, []⟩

mutual

/-- The tree of a value on the wire. -/
def ofWire : Wire.Value → Tree
  | ⟨tag, slot, children⟩ => ⟨Wire.kindOf tag slot, forestOfWire children⟩

/-- The trees of some values on the wire. -/
def forestOfWire : List Wire.Value → List Tree
  | [] => []
  | value :: rest => ofWire value :: forestOfWire rest

end

mutual

/-- How many values a tree has, the root included. -/
def count : Tree → Nat
  | ⟨_, children⟩ => 1 + forestCount children

/-- How many values some trees have together. -/
def forestCount : List Tree → Nat
  | [] => 0
  | tree :: rest => count tree + forestCount rest

end

end Tree

/-- The entry of a call or stream on the wire. -/
def Entry.ofWire (entry : Wire.Entry) : Entry :=
  ⟨entry.name, (entry.value.map Tree.ofWire).getD .nil⟩

namespace Document

/-- The document of a root on the wire. -/
def ofWire (root : Wire.Root) : Document :=
  ⟨root.calls.map Entry.ofWire, root.streams.map Entry.ofWire⟩

/-- How many values the trees of some entries have together. -/
def entriesCount : List Entry → Nat
  | [] => 0
  | entry :: rest => entry.tree.count + entriesCount rest

/-- How many values the trees of a document have together. -/
def valueCount (document : Document) : Nat :=
  entriesCount document.calls + entriesCount document.streams

/-- Reads a document from the bytes of a file. -/
def load (bytes : Bytes) : Except Wire.DecodeError Document :=
  (Wire.Root.decode bytes).map ofWire

end Document

end AstView

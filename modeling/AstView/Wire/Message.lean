import AstView.Bytes

/-!
# Messages of the schema

A root has calls and streams. A call has a name and a result, a stream a name and a filter;
both are entries, a name and a value that may be missing. A value has a type tag, at most one
payload slot and any number of children:

    message Value  { Type t = 1; oneof primitive { bool b = 2; uint64 u = 3; bytes raw = 4; }
                     repeated Value children = 5; }
    message Call   { string name = 1; Value result = 2; }
    message Stream { string name = 1; Value filter = 2; }
    message Root   { repeated Call calls = 1; repeated Stream streams = 2; }

A message that has not been read from yet has the defaults: tag zero, an empty name, and
nothing else.
-/
namespace AstView.Wire

/-- The payload slot of a value; the tag says whether it means anything. -/
inductive Slot where
  /-- A truth value. -/
  | flag (value : Bool)
  /-- A number. -/
  | unsigned (value : UInt64)
  /-- Bytes. -/
  | raw (value : Bytes)
  deriving Repr, DecidableEq

/-- A value with its payload slot, whatever the tag. -/
structure Value where
  /-- The type tag, known or not. -/
  tag : Int32 := 0
  /-- The payload slot, if one is set. -/
  slot : Option Slot := none
  /-- The values below this one, in order. -/
  children : List Value := []
  deriving Repr, Inhabited

/-- A call or a stream. -/
structure Entry where
  /-- The name of the entry. -/
  name : String := ""
  /-- The result of a call or the filter of a stream, if there is one. -/
  value : Option Value := none
  deriving Repr, Inhabited

/-- A whole file. -/
structure Root where
  /-- The calls in order. -/
  calls : List Entry := []
  /-- The streams in order. -/
  streams : List Entry := []
  deriving Repr, Inhabited

end AstView.Wire

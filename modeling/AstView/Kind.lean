import AstView.NodeType
import AstView.Text.Utf8

/-!
# Kinds of values

A kind is a value type together with the payload that the type calls for. The label of a kind
is the text under which the views show it: the name of its type, and its payload in
parentheses if it has one. A type that is not in the table has its number for a name.
-/
namespace AstView

/-- A value type as found on the wire. -/
inductive Tag where
  /-- A type of the table. -/
  | known (type : NodeType)
  /-- A number that is not in the table. -/
  | unknown (code : Int32)
  deriving Repr, DecidableEq, Inhabited

namespace Tag

/-- The type with a number on the wire. -/
def ofCode (code : Int32) : Tag :=
  match NodeType.ofCode? code with
  | some type => .known type
  | none => .unknown code

/-- A type is shown by its name, a number that is not in the table in decimal. -/
def text : Tag → String
  | known type => type.name
  | unknown code => toString code.toInt

/-- Whether the type is in the table. -/
def isKnown : Tag → Bool
  | known _ => true
  | unknown _ => false

end Tag

/-- What a value is: one of the six types with a payload, or a type that has children only. -/
inductive Kind where
  /-- A number. -/
  | uint64 (value : UInt64)
  /-- The argument of the enclosing function at an index. -/
  | arg (index : UInt64)
  /-- The parameter of the call at an index. -/
  | param (index : UInt64)
  /-- A truth value. -/
  | bool (value : Bool)
  /-- An error with its text, which need not be UTF-8. -/
  | error (text : Bytes)
  /-- Bytes. -/
  | bytes (value : Bytes)
  /-- A type without a payload. -/
  | node (tag : Tag)
  deriving Repr, DecidableEq

namespace Kind

/-- The type of a kind. -/
def tag : Kind → Tag
  | uint64 _ => .known .uint64
  | arg _ => .known .arg
  | param _ => .known .param
  | bool _ => .known .bool
  | error _ => .known .error
  | bytes _ => .known .bytes
  | node tag => tag

/-- A truth value is shown as a lowercase word. -/
def flagText (value : Bool) : String := if value then "true" else "false"

/-- A number is shown in decimal. -/
def numberText (value : UInt64) : String := toString value.toNat

/-- Bytes are shown as hexadecimal digits after `0x`. -/
def bytesText (value : Bytes) : String := "0x" ++ value.toHex

/-- The text of a payload, for the kinds that have one. The text of an error may hold bytes that
are not UTF-8, for which U+FFFD stands. -/
def payloadText : Kind → Option String
  | uint64 value => some (numberText value)
  | arg index => some (numberText index)
  | param index => some (numberText index)
  | bool value => some (flagText value)
  | error text => some (Utf8.lossy text)
  | bytes value => some (bytesText value)
  | node _ => none

/-- The label of a kind: its type, and its payload in parentheses if it has one. -/
def label (kind : Kind) : String :=
  match kind.payloadText with
  | some payload => kind.tag.text ++ "(" ++ payload ++ ")"
  | none => kind.tag.text

/-- The kind of the empty value. -/
def nil : Kind := .node (.known .nil)

instance : Inhabited Kind := ⟨nil⟩

end Kind

end AstView

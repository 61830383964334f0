import AstView.Kind
import AstView.Role

/-!
# Icons

The tree view puts an icon before every label. A value has one of four, by what it stands for:
a literal, a reference, an error or an operation. An icon can also be looked up under the name
of what it marks; a name that marks nothing has the icon of an operation.
-/
namespace AstView

/-- What the line of a tree view stands for. -/
inductive Icon where
  /-- The whole document. -/
  | document
  /-- All calls, or all streams. -/
  | heading (role : Role)
  /-- One call, or one stream. -/
  | entry (role : Role)
  /-- A number, a truth value or bytes. -/
  | literal
  /-- An argument or a parameter. -/
  | reference
  /-- An error. -/
  | error
  /-- Any other value. -/
  | operation
  deriving Repr, DecidableEq

namespace Icon

/-- The character of an icon. -/
def symbol : Icon → String
  | document => "⧉"
  | .heading .call => "ƒ"
  | .heading .stream => "≋"
  | entry .call => "▭"
  | entry .stream => "⇶"
  | literal => "◦"
  | reference => "@"
  | error => "⚠"
  | operation => "○"

/-- The name of what an icon marks. -/
def name : Icon → String
  | document => "Document"
  | .heading .call => "Calls"
  | .heading .stream => "Streams"
  | entry .call => "Call"
  | entry .stream => "Stream"
  | literal => "Literal"
  | reference => "Reference"
  | error => "Error"
  | operation => "Node"

/-- Every icon. -/
def all : List Icon :=
  [.document, .heading .call, .heading .stream, .entry .call, .entry .stream, .literal,
    .reference, .error, .operation]

/-- The icon of what a name stands for. -/
def ofName (name : String) : Icon := (all.find? fun icon => icon.name = name).getD .operation

/-- An icon is found under its name. -/
theorem ofName_name (icon : Icon) : ofName icon.name = icon := by
  rcases icon with _ | (_ | _) | (_ | _) | _ | _ | _ | _ <;> decide

end Icon

/-- The icon of a value. -/
def Kind.icon : Kind → Icon
  | uint64 _ => .literal
  | bool _ => .literal
  | bytes _ => .literal
  | arg _ => .reference
  | param _ => .reference
  | error _ => .error
  | node _ => .operation

end AstView

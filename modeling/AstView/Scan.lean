/-!
# Scanners

A scanner reads something from the front of a list of characters and leaves what follows, or
fails. Where one of two scanners may apply, the second one starts where the first one did.
-/
namespace AstView

/-- Reads from the front of a list of characters. -/
abbrev Scan (α : Type) := StateT (List Char) Option α

namespace Scan

variable {α : Type}

/-- Reads one character that has a property. -/
def one (property : Char → Bool) : Scan Char
  | [] => none
  | head :: rest => if property head then some (head, rest) else none

/-- Reads a certain character. -/
def char (expected : Char) : Scan Char := one (· == expected)

/-- Reads certain characters. -/
def word : List Char → Scan Unit
  | [] => pure ()
  | head :: rest => do
    let _ ← char head
    word rest

/-- Reads characters as long as they have a property. -/
def span (property : Char → Bool) : Scan (List Char) := fun input =>
  some (input.takeWhile property, input.dropWhile property)

/-- Reads characters as long as they have a property, and at least one. -/
def spanSome (property : Char → Bool) : Scan (List Char) := do
  let head ← one property
  let rest ← span property
  return head :: rest

/-- Reads something if it is there. -/
def maybe (scan : Scan α) : Scan (Option α) := (some <$> scan) <|> pure none

/-- Reads the first of two things that is there. -/
def either (first second : Scan α) : Scan α := first <|> second

/-- Reads the first of some things that is there. -/
def firstOf : List (Scan α) → Scan α
  | [] => fun _ => none
  | scan :: rest => scan <|> firstOf rest

/-- Fails unless a condition holds. -/
def guarded (condition : Bool) : Scan Unit := fun input =>
  if condition then some ((), input) else none

/-- Takes the value of a computation that may have none. -/
def ofOption (value : Option α) : Scan α := fun input => value.map fun value => (value, input)

/-- Whether a scanner would succeed; nothing is read. -/
def follows (scan : Scan α) : Scan Unit := fun input => (scan input).map fun _ => ((), input)

/-- Reads something as often as it comes, as long as that makes the list shorter. -/
def many (scan : Scan α) (input : List Char) : Option (List α × List Char) :=
  match scan input with
  | none => some ([], input)
  | some (head, rest) =>
    if rest.length < input.length then
      (many scan rest).map fun found => (head :: found.1, found.2)
    else some ([], input)
termination_by input.length

/-- Reads things with a separator between them; a separator belongs to the thing after it. -/
def separated {β : Type} (scan : Scan α) (separator : Scan β) : Scan (List α) := do
  let head ← scan
  let rest ← many (do
    let _ ← separator
    scan)
  return head :: rest

/-- Nothing is left to read. -/
def atEnd : Scan Unit := fun input => if input.isEmpty then some ((), input) else none

end Scan

end AstView

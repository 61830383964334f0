import AstView.Text.Utf8

/-!
# Text without commands to a terminal

A text can hold commands to a terminal: single control characters, and sequences that an escape
character begins. A message that repeats what a user has typed leaves them out, so that they
are not obeyed. Tabs, form feeds and the ends of lines are no commands.

What follows the escape character says how long its sequence is:

* marks from the space to the slash, and one more character;
* an opening square bracket, and the characters up to one from `@` to `~`;
* a closing square bracket, and a title up to a bell;
* a `P` with its parameters, or one of `X`, `^` and `_`, and a string up to a byte 9C.

An escape character begins a new sequence wherever it stands, and a cancelling character ends
any. Where an end of a line or another blank stands in one of the first two kinds, it is kept,
and what follows is text again up to the next control character.
-/
namespace AstView.Text

/-- What the next character of a text belongs to. -/
inductive Mode where
  /-- Text. -/
  | text
  /-- A sequence of which only the escape character has come. -/
  | escape
  /-- A sequence whose marks have begun. -/
  | marks
  /-- A sequence with an opening square bracket. -/
  | control
  /-- A sequence with a `P`. -/
  | device
  /-- A sequence with a `P` whose parameters have begun. -/
  | deviceParameters
  /-- A sequence with a `P` whose marks have begun. -/
  | deviceMarks
  /-- A string. -/
  | string
  /-- A title. -/
  | title
  deriving Repr, DecidableEq

/-- Whether a character lies between two others, both of them included. -/
def isBetween (low high char : Char) : Bool := decide (low ≤ char) && decide (char ≤ high)

/-- Whether a character is a blank other than the space. -/
def isControlBlank (char : Char) : Bool :=
  char == '\t' || char == '\n' || char == '\x0c' || char == '\r'

namespace Mode

/-- Whether single control characters count. -/
def obeysControls : Mode → Bool
  | text | escape | marks | control => true
  | _ => false

/-- What follows a character that belongs to a sequence. -/
def next (mode : Mode) (char : Char) : Mode :=
  match mode with
  | text => text
  | escape =>
    if isBetween ' ' '/' char then marks
    else if char = '[' then control
    else if char = ']' then title
    else if char = 'P' then device
    else if char = 'X' ∨ char = '^' ∨ char = '_' then string
    else if isBetween '0' '~' char then text
    else escape
  | marks => if isBetween '0' '~' char then text else marks
  | control => if isBetween '@' '~' char then text else control
  | device =>
    if isBetween ' ' '/' char then deviceMarks
    else if isBetween '0' '?' char then deviceParameters
    else if isBetween '@' '~' char then string
    else device
  | deviceParameters =>
    if isBetween ' ' '/' char then deviceMarks
    else if isBetween '<' '~' char then string
    else deviceParameters
  | deviceMarks => if isBetween '0' '~' char then string else deviceMarks
  | string => if (Utf8.encodeChar char).contains 0x9C then text else string
  | title => if char = '\x07' then text else title

end Mode

/-- How far a text has been read. -/
structure Position where
  /-- What the next character belongs to. -/
  mode : Mode := .text
  /-- Whether the next character is text all the same, because a blank came in a sequence. -/
  resumed : Bool := false
  deriving Repr, DecidableEq

/-- Reads a character and tells whether it is kept. -/
def Position.read (position : Position) (char : Char) : Position × Bool :=
  if char = '\x1b' then ({ mode := .escape }, false)
  else if char = '\x18' ∨ char = '\x1a' then ({}, false)
  else if position.resumed || position.mode == .text then
    if isBetween ' ' '~' char || isControlBlank char then (position, true)
    else if '\x7f' < char then ({}, true)
    else ({ position with resumed := false }, false)
  else if position.mode.obeysControls && isControlBlank char then
    ({ position with resumed := true }, true)
  else ({ position with mode := position.mode.next char }, false)

/-- What is kept of characters that come at a position. -/
def keptFrom : Position → List Char → List Char
  | _, [] => []
  | position, char :: rest =>
    let (after, kept) := position.read char
    if kept then char :: keptFrom after rest else keptFrom after rest

/-- A text without commands to a terminal. -/
def withoutCommands (text : String) : String := String.ofList (keptFrom {} text.toList)

end AstView.Text

import AstView.Text.Table.CaseIgnorable
import AstView.Text.Table.Cased
import AstView.Text.Table.LowerCase

/-!
# Lowercase text

A text becomes lowercase character by character, with two exceptions. The capital I with a dot
keeps its dot as a character of its own. The capital sigma has a form for the end of a word:
it stands at an end if the nearest character before it, marks aside, is a cased one and the
nearest after it is not.
-/
namespace AstView.Text

/-- Whether the nearest of some characters that case does not look past is a cased one. -/
def meetsCased : List Char → Bool
  | [] => false
  | next :: rest =>
    if caseIgnorable.contains next then meetsCased rest else cased.contains next

/-- The lowercase form of a character by itself. -/
def lowerChar (char : Char) : Char :=
  match caseRuns.find? fun run => run.contains char.toNat with
  | some run => Char.ofNat (char.toNat + run.offset).toNat
  | none => char

/-- The lowercase form of characters that follow others, which are given the nearest first. -/
def lowerAfter (before : List Char) : List Char → List Char
  | [] => []
  | char :: rest =>
    let lowered :=
      if char = 'Σ' then
        if meetsCased before && !meetsCased rest then ['ς'] else ['σ']
      else if char = 'İ' then ['i', '\u0307']
      else [lowerChar char]
    lowered ++ lowerAfter (char :: before) rest

/-- The lowercase form of a text. -/
def toLower (text : String) : String := String.ofList (lowerAfter [] text.toList)

end AstView.Text

import AstView.Proofs.Dot.Label
import Mathlib.Data.List.Basic

/-!
# Escaping step by step

Escaping can also be done in three steps over the whole text: every backslash is doubled, then every
double quote gets a backslash, and then every newline is written as a backslash and `n`. A later
step finds only what it looks for in the label, since no step before it has put a quote or a newline
into the text, so the three steps come to the one pass (`escapeChar_steps`, `escapeLabel_steps`).

The pass can be undone. A text is what is written for a label exactly if it can be read back, and
then the label is what is read (`unescape_eq_some_iff`). A reader that only looks for the quote at
the end, and lets every backslash take the next character with it, goes over a whole character of
the label at a time and stops at the quote behind the label (`untilQuote_escape`).
-/
namespace AstView.Dot

/-! ## Replacing a character everywhere -/

/-- What stands for a character when a mark is replaced. -/
def replaced (mark : Char) (replacement : String) (char : Char) : List Char :=
  if char = mark then replacement.toList else [char]

/-- Without the mark nothing is replaced. -/
theorem flatMap_replaced_of_not_mem {mark : Char} {replacement : String} {chars : List Char}
    (absent : mark ∉ chars) : chars.flatMap (replaced mark replacement) = chars := by
  have kept : ∀ char ∈ chars, replaced mark replacement char = [char] := by
    intro char inside
    apply if_neg
    intro same
    exact absent (same ▸ inside)
  rw [List.flatMap_congr kept, List.flatMap_singleton']

section
open String.Slice Pattern

variable {mark : Char} {text : String.Slice}

/-- A stretch in which a mark is found nowhere does not have it. -/
theorem not_mem_slice {start stop : text.Pos} (le : start ≤ stop)
    (free : ∀ position, start ≤ position → position < stop → ¬Model.MatchesAt mark position) :
    mark ∉ (text.slice start stop le).copy.toList := by
  intro inside
  rw [(splits_startPos (text.slice start stop le)).mem_toList_right_iff] at inside
  obtain ⟨position, -, more, found⟩ := inside
  have before : Pos.ofSlice position < stop := by
    have less := Pos.ofSlice_lt_ofSlice_iff.2 ((Pos.lt_endPos_iff position).2 more)
    rwa [Pos.ofSlice_endPos] at less
  rw [Pos.get_eq_get_ofSlice] at found
  exact free _ Pos.le_ofSlice before (Model.Char.matchesAt_iff.2 ⟨_, found⟩)

/-- The steps of a search for a mark, with the replacement for every hit and the text itself for
every stretch between them, make the text with the mark replaced. -/
theorem toList_foldl_steps {replacement : String} {next : String → SearchStep text → String}
    (matched : ∀ sofar start stop, next sofar (.matched start stop) = sofar ++ replacement)
    (rejected : ∀ sofar start stop (le : start ≤ stop),
      next sofar (.rejected start stop) = sofar ++ (text.slice start stop le).copy)
    {position : text.Pos} {steps : List (SearchStep text)}
    (valid : Model.IsValidSearchFrom mark position steps) {before after : String}
    (split : position.Splits before after) (sofar : String) :
    (steps.foldl next sofar).toList =
      sofar.toList ++ after.toList.flatMap (replaced mark replacement) := by
  -- The search may have come to any position: what is left to be written is the text behind it.
  induction valid generalizing before after sofar with
  | endPos =>
    rw [split.eq_endPos_iff.1 rfl]
    simp
  | @matched steps start stop found _ ih =>
    obtain ⟨more, rfl, same⟩ := Model.Char.isLongestMatchAt_iff.1 found
    obtain ⟨rest, rfl⟩ := split.exists_eq_singleton_append more
    rw [List.foldl_cons, ih split.next, matched]
    simp [replaced, same]
  | @mismatched steps start stop less free _ ih =>
    have le : start ≤ stop := Std.le_of_lt less
    obtain ⟨middle, -, front, rfl⟩ := (Pos.Splits.lt_iff_exists_eq_append split stop.splits).1 less
    have own : (text.slice start stop le).copy = middle := by
      obtain ⟨_, same⟩ := copy_slice_eq_iff_splits.2 ⟨_, _, split, front ▸ stop.splits⟩
      exact same
    have absent : mark ∉ middle.toList := own ▸ not_mem_slice le free
    rw [List.foldl_cons, ih stop.splits, rejected _ _ _ le, own]
    simp [flatMap_replaced_of_not_mem absent]

/-- Replacing a mark in a text does so for every character of it. -/
theorem toList_replace (mark : Char) (replacement text : String) :
    (text.replace mark replacement).toList = text.toList.flatMap (replaced mark replacement) := by
  have valid : Model.IsValidSearchFrom mark text.toSlice.startPos
      (ToForwardSearcher.toSearcher mark text.toSlice).toList :=
    Model.LawfulToForwardSearcherModel.isValidSearchFrom_toList text.toSlice
  have copied : text.toSlice.copy = text := String.copy_toSlice
  rw [String.replace, String.Slice.replace, ← Std.Iter.foldl_toList,
    toList_foldl_steps _ _ valid (splits_startPos _), copied]
  · rfl
  · intro sofar start stop
    exact String.appendSlice_eq.trans (congrArg _ String.copy_toSlice)
  · intro sofar start stop le
    rw [slice_eq_slice!]
    exact String.appendSlice_eq

end

/-! ## Three steps and one pass -/

/-- The three steps come to what one pass writes for a character. -/
theorem escapeChar_steps (char : Char) :
    ((replaced '\\' "\\\\" char).flatMap (replaced '"' "\\\"")).flatMap (replaced '\n' "\\n") =
      escapeChar char := by
  obtain rfl | rfl | rfl | ⟨⟨backslash, quote, newline⟩, same⟩ := escapeChar_cases char
  -- The step for the character itself writes a backslash, which none of the later ones looks for.
  · rfl
  · rfl
  · rfl
  · rw [same, replaced, if_neg backslash, List.flatMap_singleton, replaced, if_neg quote,
      List.flatMap_singleton, replaced, if_neg newline]

/-- The three steps come to one pass over the label. -/
theorem escapeLabel_steps (label : String) :
    ((label.replace '\\' "\\\\").replace '"' "\\\"").replace '\n' "\\n" = escapeLabel label := by
  apply String.toList_inj.1
  calc
    (((label.replace '\\' "\\\\").replace '"' "\\\"").replace '\n' "\\n").toList
      = ((label.toList.flatMap (replaced '\\' "\\\\")).flatMap (replaced '"' "\\\"")).flatMap
          (replaced '\n' "\\n") := by rw [toList_replace, toList_replace, toList_replace]
    _ = label.toList.flatMap fun char =>
          ((replaced '\\' "\\\\" char).flatMap (replaced '"' "\\\"")).flatMap
            (replaced '\n' "\\n") := by simp only [List.flatMap_assoc]
    _ = label.toList.flatMap escapeChar := by simp only [escapeChar_steps]
    _ = (escapeLabel label).toList := (toList_escapeLabel label).symm

/-! ## Undoing the escapes -/

/-- Reads a text with escapes. A backslash stands before another one, before a double quote or
before the `n` of a newline, and those three characters stand nowhere else. -/
def unescape : List Char → Option (List Char)
  | [] => some []
  | '\\' :: '\\' :: rest => (unescape rest).map ('\\' :: ·)
  | '\\' :: '"' :: rest => (unescape rest).map ('"' :: ·)
  | '\\' :: 'n' :: rest => (unescape rest).map ('\n' :: ·)
  | char :: rest =>
    if char = '\\' ∨ char = '"' ∨ char = '\n' then none else (unescape rest).map (char :: ·)

/-- What is written for a character is read as that character. -/
theorem unescape_escapeChar (char : Char) (rest : List Char) :
    unescape (escapeChar char ++ rest) = (unescape rest).map (char :: ·) := by
  obtain rfl | rfl | rfl | ⟨⟨backslash, quote, newline⟩, same⟩ := escapeChar_cases char
  · rfl
  · rfl
  · rfl
  · rw [same, List.singleton_append]
    simp [unescape, backslash, quote, newline]

/-- A label is read back from what is written for it. -/
theorem unescape_escape (label : List Char) :
    unescape (label.flatMap escapeChar) = some label := by
  induction label with
  | nil => rfl
  | cons char others ih =>
    rw [List.flatMap_cons, unescape_escapeChar, ih]
    rfl

/-- A text that can be read is what is written for the label that it is read as. -/
theorem eq_escape_of_unescape {text label : List Char} (read : unescape text = some label) :
    text = label.flatMap escapeChar := by
  induction text using unescape.induct generalizing label with
  | case1 =>
    cases read
    rfl
  | case2 rest ih | case3 rest ih | case4 rest ih =>
    obtain ⟨others, found, rfl⟩ := Option.map_eq_some_iff.1 read
    rw [ih found]
    rfl
  | case5 char rest noBackslash noQuote noNewline special =>
    rw [unescape, if_pos special] at read
    · cases read
    all_goals assumption
  | case6 char rest noBackslash noQuote noNewline plain ih =>
    rw [unescape, if_neg plain] at read
    · obtain ⟨others, found, rfl⟩ := Option.map_eq_some_iff.1 read
      rw [not_or, not_or] at plain
      rw [ih found, List.flatMap_cons, escapeChar, if_neg plain.1, if_neg plain.2.1,
        if_neg plain.2.2, List.singleton_append]
    all_goals assumption

/-- The texts that can be read are exactly those that are written for labels. -/
theorem unescape_eq_some_iff {text label : List Char} :
    unescape text = some label ↔ text = label.flatMap escapeChar := by
  constructor
  · exact eq_escape_of_unescape
  · rintro rfl
    exact unescape_escape label

/-! ## The end of a quoted text -/

/-- The inside of a quoted text as it stands there and what follows the quote at its end. A
backslash takes the next character with it. -/
def untilQuote : List Char → Option (List Char × List Char)
  | [] => none
  | '"' :: rest => some ([], rest)
  | ['\\'] => none
  | '\\' :: char :: rest => (untilQuote rest).map fun found => push '\\' (push char found)
  | char :: rest => (untilQuote rest).map (push char)

/-- What is written for a character belongs to the inside. -/
theorem untilQuote_escapeChar (char : Char) (rest : List Char) :
    untilQuote (escapeChar char ++ rest) =
      (untilQuote rest).map fun found => (escapeChar char ++ found.1, found.2) := by
  obtain rfl | rfl | rfl | ⟨⟨backslash, quote, -⟩, same⟩ := escapeChar_cases char
  · rfl
  · rfl
  · rfl
  · rw [same, List.singleton_append, untilQuote]
    · rfl
    · exact quote
    · intro begins
      exact absurd begins backslash
    · intro _ _ begins
      exact absurd begins backslash

/-- The inside of a quoted label is all that is written for the label, whatever follows. -/
theorem untilQuote_escape (label rest : List Char) :
    untilQuote (label.flatMap escapeChar ++ '"' :: rest) =
      some (label.flatMap escapeChar, rest) := by
  induction label with
  | nil => rfl
  | cons char others ih =>
    rw [List.flatMap_cons, List.append_assoc, untilQuote_escapeChar, ih]
    rfl

/-- Escaping is exact and can be undone. Replacing backslashes, then double quotes, then newlines in
the whole text comes to one pass that writes each of them as a backslash and a character and leaves
all others as they are. What is written stays on its line, is read back as the label and as no other
one, and between quotes it ends at the quote behind it, whatever text follows. -/
theorem escapeLabel_exact (label : String) :
    ((label.replace '\\' "\\\\").replace '"' "\\\"").replace '\n' "\\n" = escapeLabel label ∧
      (escapeLabel label).toList = label.toList.flatMap escapeChar ∧
      '\n' ∉ (escapeLabel label).toList ∧
      (∀ text, unescape text = some label.toList ↔ text = (escapeLabel label).toList) ∧
      (∀ other, escapeLabel other = escapeLabel label ↔ other = label) ∧
      ∀ text, untilQuote ((escapeLabel label).toList ++ '"' :: text) =
        some ((escapeLabel label).toList, text) := by
  have written := toList_escapeLabel label
  refine ⟨escapeLabel_steps label, written, newline_not_mem_escapeLabel label, ?_, ?_, ?_⟩
  · intro text
    rw [unescape_eq_some_iff, written]
  · intro other
    constructor
    · intro same
      have chars : other.toList = label.toList := by
        apply Option.some.inj
        rw [← unescape_escape, ← unescape_escape, ← written, ← toList_escapeLabel, same]
      exact String.toList_inj.1 chars
    · exact congrArg escapeLabel
  · intro text
    rw [written]
    exact untilQuote_escape label.toList text

end AstView.Dot

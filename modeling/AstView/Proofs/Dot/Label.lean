import AstView.Dot.Label

/-!
# Reading escaped labels

The inside of a quoted text goes up to the first quote that no backslash stands before. An escaped
label is read back there as it was, whatever follows the quote, and it stays on its line.
-/
namespace AstView.Dot

/-- Puts a character in front of the text that was read. -/
def push (char : Char) (read : List Char × List Char) : List Char × List Char :=
  (char :: read.1, read.2)

/-- Reads the inside of a quoted text. A backslash takes the next character with it, and stands
with `n` for a newline. What follows the quote is left. -/
def quoted : List Char → Option (List Char × List Char)
  | [] => none
  | '"' :: rest => some ([], rest)
  | ['\\'] => none
  | '\\' :: 'n' :: rest => (quoted rest).map (push '\n')
  | '\\' :: char :: rest => (quoted rest).map (push char)
  | char :: rest => (quoted rest).map (push char)

/-- A character is one of the three that are escaped, or it is written as it is. -/
theorem escapeChar_cases (char : Char) :
    char = '\\' ∨ char = '"' ∨ char = '\n' ∨
      (char ≠ '\\' ∧ char ≠ '"' ∧ char ≠ '\n') ∧ escapeChar char = [char] := by
  by_cases special : char = '\\' ∨ char = '"' ∨ char = '\n'
  · obtain backslash | quote | newline := special
    · exact .inl backslash
    · exact .inr (.inl quote)
    · exact .inr (.inr (.inl newline))
  · rw [not_or, not_or] at special
    have same : escapeChar char = [char] := by
      rw [escapeChar, if_neg special.1, if_neg special.2.1, if_neg special.2.2]
    exact .inr (.inr (.inr ⟨special, same⟩))

/-- What is written for a character is read as that character. -/
theorem quoted_escapeChar (char : Char) (rest : List Char) :
    quoted (escapeChar char ++ rest) = (quoted rest).map (push char) := by
  obtain rfl | rfl | rfl | ⟨⟨backslash, quote, -⟩, same⟩ := escapeChar_cases char
  · rfl
  · rfl
  · rfl
  · rw [same, List.singleton_append]
    simp [quoted, backslash]

/-- A label is read back from its escaped form up to the quote behind it. -/
theorem quoted_escape (label rest : List Char) :
    quoted (label.flatMap escapeChar ++ '"' :: rest) = some (label, rest) := by
  induction label with
  | nil => rfl
  | cons char others ih =>
    rw [List.flatMap_cons, List.append_assoc, quoted_escapeChar, ih]
    rfl

theorem toList_escapeLabel (label : String) :
    (escapeLabel label).toList = label.toList.flatMap escapeChar := String.toList_ofList

/-- An escaped label has no newline. -/
theorem newline_not_mem_escapeLabel (label : String) : '\n' ∉ (escapeLabel label).toList := by
  rw [toList_escapeLabel, List.mem_flatMap]
  rintro ⟨char, -, inside⟩
  obtain rfl | rfl | rfl | ⟨⟨-, -, newline⟩, same⟩ := escapeChar_cases char
  · exact absurd inside (by decide)
  · exact absurd inside (by decide)
  · exact absurd inside (by decide)
  · rw [same, List.mem_singleton] at inside
    exact newline inside.symm

end AstView.Dot

import Mathlib.Data.List.Basic

/-!
# Reading texts

What a text is made of, for readers of the views: decimal numbers, the words of a line between
single spaces, and the lines of a text, each with a newline at its end.
-/
namespace AstView.Text

/-! ## Numbers -/

/-- Reads decimal digits. -/
def number? (digits : List Char) : Option Nat :=
  if !digits.isEmpty && digits.all Char.isDigit then some (Nat.ofDigitChars 10 digits 0) else none

/-- Reads decimal digits behind an optional minus sign. -/
def integer? : List Char → Option Int
  | '-' :: digits => (number? digits).map fun size : Nat => -(size : Int)
  | digits => (number? digits).map fun size : Nat => (size : Int)

/-- The decimal form of a number has digits only. -/
theorem isDigit_decimal {number : Nat} {char : Char} (inside : char ∈ (toString number).toList) :
    char.isDigit := by
  rw [Nat.toString_eq_repr, Nat.toList_repr] at inside
  exact Nat.isDigit_of_mem_toDigits (by decide) (by decide) inside

/-- A number is read back from its decimal form. -/
theorem number?_decimal (number : Nat) : number? (toString number).toList = some number := by
  have digits : (toString number).toList.all Char.isDigit = true :=
    List.all_eq_true.2 fun _ => isDigit_decimal
  have some : (toString number).toList.isEmpty = false := by
    rw [Nat.toString_eq_repr, Nat.toList_repr, List.isEmpty_eq_false_iff]
    exact Nat.toDigits_ne_nil
  rw [number?, digits, some, Nat.toString_eq_repr, Nat.toList_repr, Nat.ofDigitChars_ten_toDigits]
  rfl

/-- A negative number is written behind a minus sign. -/
theorem decimal_cases (number : Int) :
    (∃ size : Nat, number = size ∧ (toString number).toList = (toString size).toList) ∨
      ∃ size : Nat, number = -size ∧ (toString number).toList = '-' :: (toString size).toList := by
  change (∃ size : Nat, number = size ∧ number.repr.toList = (toString size).toList) ∨
    ∃ size : Nat, number = -size ∧ number.repr.toList = '-' :: (toString size).toList
  rw [Int.repr_eq_if]
  split
  · exact Or.inl ⟨number.toNat, by omega, rfl⟩
  · exact Or.inr ⟨(-number).toNat, by omega, String.toList_append⟩

/-- A number is read back from its decimal form, with its sign. -/
theorem integer?_decimal (number : Int) : integer? (toString number).toList = some number := by
  obtain ⟨size, same, digits⟩ | ⟨size, same, digits⟩ := decimal_cases number
  · have unsigned : ∀ rest, (toString size).toList ≠ '-' :: rest := by
      intro rest begins
      have digit : '-'.isDigit := isDigit_decimal (begins ▸ List.mem_cons_self)
      cases digit
    rw [digits, integer?, number?_decimal, Option.map_some, same]
    exact unsigned
  · rw [digits, integer?, number?_decimal, Option.map_some, same]

/-! ## Words and lines -/

/-- A text with a front that another one does not have is not that other one. -/
theorem append_ne {front other : String} (differs : ¬front.toList <+: other.toList)
    (rest : String) : front ++ rest ≠ other := by
  rintro rfl
  rw [String.toList_append] at differs
  exact differs (List.prefix_append _ _)

/-- The words of a line, between single spaces. -/
def words (line : String) : List String := (line.toList.splitOn ' ').map String.ofList

/-- The lines of a text, without the newline that ends each of them. -/
def lines (text : String) : List String := (text.toList.splitOn '\n').dropLast.map String.ofList

/-- A line without spaces is one word. -/
theorem words_word {word : String} (whole : ' ' ∉ word.toList) : words word = [word] := by
  rw [words, List.splitOn_eq_singleton whole, List.map_singleton, String.ofList_toList]

/-- The first space of a line ends its first word. -/
theorem words_space {word : String} (whole : ' ' ∉ word.toList) (rest : String) :
    words (word ++ " " ++ rest) = word :: words rest := by
  have chars : (word ++ " " ++ rest).toList = word.toList ++ ' ' :: rest.toList := by
    simp only [String.toList_append, List.append_assoc]
    rfl
  rw [words, chars, List.splitOn_append_cons_self_of_not_mem whole, List.map_cons,
    String.ofList_toList, words]

/-- The last space of a line begins its last word. -/
theorem getLast?_words {word : String} (whole : ' ' ∉ word.toList) (front : String) :
    (words (front ++ " " ++ word)).getLast? = some word := by
  have chars : (front ++ " " ++ word).toList = front.toList ++ ' ' :: word.toList := by
    simp only [String.toList_append, List.append_assoc]
    rfl
  rw [words, chars, List.splitOn_append_cons_self, List.splitOn_eq_singleton whole,
    List.map_append, List.map_singleton, List.getLast?_concat, String.ofList_toList]

/-- A word in front of a line goes on with the first word of that line. -/
theorem words_append {word : String} (whole : ' ' ∉ word.toList) (rest : String) :
    ∃ first others, words (word ++ rest) = (word ++ first) :: others := by
  obtain ⟨first, others, found⟩ := List.exists_cons_of_ne_nil (List.splitOn_ne_nil ' ' rest.toList)
  have chars (front : List Char) (plain : ' ' ∉ front) :
      (front ++ rest.toList).splitOn ' ' = (front ++ first) :: others := by
    induction front with
    | nil => exact found
    | cons char front ih =>
      have other : ¬char = ' ' := fun same => plain (same ▸ List.mem_cons_self)
      have more := ih fun inside => plain (List.mem_cons_of_mem _ inside)
      rw [List.cons_append, List.splitOn_cons_eq_if_modifyHead, more,
        if_neg (by simpa using other)]
      rfl
  refine ⟨String.ofList first, others.map String.ofList, ?_⟩
  rw [words, String.toList_append, chars _ whole, List.map_cons, String.ofList_append,
    String.ofList_toList]

/-- Pieces of which each group makes up a text and a newline make up the texts with a newline
behind each. -/
theorem join_flatMap {α : Type} {pieces : α → List String} {text : α → String}
    (whole : ∀ one, String.join (pieces one) = text one ++ "\n") (all : List α) :
    String.join (all.flatMap pieces) = String.join ((all.map text).map (· ++ "\n")) := by
  induction all with
  | nil => rfl
  | cons one rest ih =>
    rw [List.flatMap_cons, String.join_append, whole, ih, List.map_cons, List.map_cons,
      String.join_cons]

/-- The lines of some texts with a newline behind each are the lines of the texts. -/
theorem lines_join (texts : List String) :
    lines (String.join (texts.map (· ++ "\n"))) =
      texts.flatMap fun text => (text.toList.splitOn '\n').map String.ofList := by
  have chars : (String.join (texts.map (· ++ "\n"))).toList.splitOn '\n' =
      texts.flatMap (·.toList.splitOn '\n') ++ [[]] := by
    induction texts with
    | nil => rfl
    | cons text rest ih =>
      have whole : (String.join ((text :: rest).map (· ++ "\n"))).toList =
          text.toList ++ '\n' :: (String.join (rest.map (· ++ "\n"))).toList := by
        simp only [List.map_cons, String.join_cons, String.toList_append, List.append_assoc]
        rfl
      rw [whole, List.splitOn_append_cons_self, ih, List.flatMap_cons, List.append_assoc]
  rw [lines, chars, List.dropLast_concat, List.map_flatMap]

/-- Texts of one line each, with a newline behind each, have themselves for lines. -/
theorem lines_join_of_flat {texts : List String} (flat : ∀ text ∈ texts, '\n' ∉ text.toList) :
    lines (String.join (texts.map (· ++ "\n"))) = texts := by
  have own : ∀ text ∈ texts, (text.toList.splitOn '\n').map String.ofList = [text] := by
    intro text inside
    rw [List.splitOn_eq_singleton (flat text inside), List.map_singleton, String.ofList_toList]
  rw [lines_join, List.flatMap_congr own, ← List.map_eq_flatMap, List.map_id']

end AstView.Text

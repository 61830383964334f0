import AstView.NodeId
import AstView.Proofs.Text

/-!
# Reading identifiers

An identifier is read back as the place that it spells. The letter `c` marks a call and a child,
but only a call stands in front, and `v` stands in an identifier once at most, so it can be cut
there and the indices found between the letters. So no two places have the same identifier.
-/
namespace AstView

/-- The role of a letter. -/
def Role.ofLetter? : Char → Option Role
  | 'c' => some .call
  | 's' => some .stream
  | _ => none

namespace NodeId

/-- Reads an identifier. -/
def read (text : String) : Option NodeId :=
  match text.toList with
  | [] => none
  | letter :: rest =>
    match rest.splitOn 'v' with
    | [index] => do return .entry (← Role.ofLetter? letter) (← Text.number? index)
    | [index, tree] =>
      match tree.splitOn 'c' with
      | ['0'] :: path => do
        return .value (← Role.ofLetter? letter) (← Text.number? index) (← path.mapM Text.number?)
      | _ => none
    | _ => none

/-- The letter in front of an identifier, as a character. -/
def front : Role → Char
  | .call => 'c'
  | .stream => 's'

/-- The characters of the steps of a path. -/
def steps (path : List Nat) : List Char := path.flatMap fun index => 'c' :: (toString index).toList

theorem toList_entry (role : Role) (index : Nat) :
    (entry role index).text.toList = front role :: (toString index).toList := by
  simp only [text, String.toList_append]
  cases role <;> rfl

theorem toList_value (role : Role) (index : Nat) (path : List Nat) :
    (value role index path).text.toList =
      front role :: ((toString index).toList ++ 'v' :: '0' :: steps path) := by
  have tail : (String.join (path.map stepText)).toList = steps path := by
    induction path with
    | nil => rfl
    | cons step rest ih =>
      have first : (stepText step).toList = 'c' :: (toString step).toList := String.toList_append
      rw [List.map_cons, String.join_cons, String.toList_append, ih, first]
      rfl
  simp only [text, String.toList_append, tail, List.append_assoc]
  cases role <;> rfl

/-! ## The characters of identifiers -/

/-- A letter is in no number. -/
theorem not_mem_decimal {char : Char} (letter : char.isDigit = false) (number : Nat) :
    char ∉ (toString number).toList := by
  intro inside
  have digit := Text.isDigit_decimal inside
  rw [letter] at digit
  cases digit

theorem mem_steps {char : Char} {path : List Nat} (inside : char ∈ steps path) :
    char.isDigit ∨ char = 'c' := by
  rw [steps, List.mem_flatMap] at inside
  obtain ⟨index, -, inside⟩ := inside
  obtain rfl | digit := List.mem_cons.1 inside
  · exact Or.inr rfl
  · exact Or.inl (Text.isDigit_decimal digit)

/-- An identifier has digits and three letters only. -/
theorem mem_text {id : NodeId} {char : Char} (inside : char ∈ id.text.toList) :
    char.isDigit ∨ char = 'c' ∨ char = 's' ∨ char = 'v' := by
  have first (role : Role) : front role = 'c' ∨ front role = 's' := by
    cases role
    · exact Or.inl rfl
    · exact Or.inr rfl
  cases id with
  | entry role index =>
    rw [toList_entry, List.mem_cons] at inside
    obtain rfl | digit := inside
    · obtain letter | letter := first role <;> simp only [letter, true_or, or_true]
    · exact Or.inl (Text.isDigit_decimal digit)
  | value role index path =>
    rw [toList_value, List.mem_cons, List.mem_append, List.mem_cons, List.mem_cons] at inside
    obtain rfl | digit | rfl | rfl | step := inside
    · obtain letter | letter := first role <;> simp only [letter, true_or, or_true]
    · exact Or.inl (Text.isDigit_decimal digit)
    · exact Or.inr (Or.inr (Or.inr rfl))
    · exact Or.inl rfl
    · obtain digit | rfl := mem_steps step
      · exact Or.inl digit
      · exact Or.inr (Or.inl rfl)

/-- A character other than those is in no identifier. -/
theorem not_mem_text {char : Char}
    (other : (char.isDigit || char = 'c' || char = 's' || char = 'v') = false) (id : NodeId) :
    char ∉ id.text.toList := by
  intro inside
  have own := mem_text inside
  simp only [Bool.or_eq_false_iff, decide_eq_false_iff_not] at other
  obtain digit | call | stream | tree := own
  · rw [other.1.1.1] at digit
    cases digit
  · exact other.1.1.2 call
  · exact other.1.2 stream
  · exact other.2 tree

/-- No identifier is the node of a role. -/
theorem text_ne_anchor (id : NodeId) (role : Role) : id.text ≠ role.anchor := by
  intro same
  cases role with
  | call =>
    have inside : 'a' ∈ id.text.toList := by
      rw [same]
      decide
    exact not_mem_text rfl id inside
  | stream =>
    have inside : 't' ∈ id.text.toList := by
      rw [same]
      decide
    exact not_mem_text rfl id inside

/-! ## Reading back -/

/-- The steps of a path are cut at their letters. -/
theorem splitOn_steps {front : List Char} (whole : 'c' ∉ front) (path : List Nat) :
    (front ++ steps path).splitOn 'c' = front :: path.map fun index => (toString index).toList := by
  induction path generalizing front with
  | nil =>
    rw [steps, List.flatMap_nil, List.append_nil, List.splitOn_eq_singleton whole]
    rfl
  | cons index rest ih =>
    have cut : front ++ steps (index :: rest) =
        front ++ 'c' :: ((toString index).toList ++ steps rest) := rfl
    rw [cut, List.splitOn_append_cons_self_of_not_mem whole, ih (not_mem_decimal rfl index),
      List.map_cons]

/-- The numbers of a path are read back. -/
theorem mapM_number? (path : List Nat) :
    (path.map fun index => (toString index).toList).mapM Text.number? = some path := by
  induction path with
  | nil => rfl
  | cons index rest ih =>
    rw [List.map_cons, List.mapM_cons, Text.number?_decimal, ih]
    rfl

/-- A place is read back from its identifier. -/
theorem read_text (id : NodeId) : read id.text = some id := by
  have letter (role : Role) : Role.ofLetter? (front role) = some role := by
    cases role <;> rfl
  cases id with
  | entry role index =>
    have digits : 'v' ∉ (toString index).toList := not_mem_decimal rfl index
    rw [read, toList_entry]
    simp only [List.splitOn_eq_singleton digits, letter, Text.number?_decimal]
    rfl
  | value role index path =>
    have tree : 'v' ∉ '0' :: steps path := by
      intro inside
      obtain same | step := List.mem_cons.1 inside
      · cases same
      · obtain digit | same := mem_steps step
        · cases digit
        · cases same
    have root : 'c' ∉ ['0'] := by decide
    have start : ('0' :: steps path).splitOn 'c' =
        ['0'] :: path.map fun index => (toString index).toList :=
      splitOn_steps root path
    have digits : 'v' ∉ (toString index).toList := not_mem_decimal rfl index
    rw [read, toList_value]
    simp only [List.splitOn_append_cons_self_of_not_mem digits,
      List.splitOn_eq_singleton tree, start, letter, Text.number?_decimal, mapM_number?]
    rfl

/-- A child is a value. -/
theorem child_eq_value (id : NodeId) (index : Nat) :
    ∃ role own path, id.child index = value role own path := by
  cases id with
  | entry role own => exact ⟨role, own, [], rfl⟩
  | value role own path => exact ⟨role, own, path ++ [index], rfl⟩

/-- How many steps lead from the entry to a place. -/
def depth : NodeId → Nat
  | entry _ _ => 0
  | value _ _ path => path.length + 1

/-- A child is one step below. -/
theorem depth_child (id : NodeId) (index : Nat) : (id.child index).depth = id.depth + 1 := by
  cases id with
  | entry role own => rfl
  | value role own path => simp only [child, depth, List.length_append, List.length_singleton]

/-- No two places have the same identifier. -/
theorem text_injective : Function.Injective text := by
  intro one other same
  have read := congrArg read same
  rw [read_text, read_text, Option.some.injEq] at read
  exact read

end NodeId

end AstView

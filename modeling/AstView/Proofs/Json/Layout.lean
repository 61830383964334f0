import AstView.Proofs.Json.Reader

/-!
# Layouts

The pretty layout differs from the compact one in spaces and newlines between tokens only. A scanner
that knows whether it is in a text, and whether a backslash stands right before, leaves out the
spaces and newlines that are in none (`squeeze`). It turns the tokens of a value in either layout
into those of the compact one and comes back to where it is in no text, so it goes on with what
follows as from the start (`Squeezes`). What it keeps has no newline, because in a text a newline is
written as an escape.
-/
namespace AstView.Json

/-! ## Leaving out space -/

/-- Where a scanner of JSON stands. -/
inductive Place where
  /-- In no text. -/
  | outside
  /-- In a text. -/
  | inside
  /-- In a text, behind a backslash that the next character belongs to. -/
  | escaped
  deriving Repr, DecidableEq

/-- Where a scanner stands behind a character. -/
def Place.next : Place → Char → Place
  | outside, '"' => inside
  | outside, _ => outside
  | inside, '"' => outside
  | inside, '\\' => escaped
  | inside, _ => inside
  | escaped, _ => inside

/-- Leaves out the spaces and newlines that are in no text. -/
def squeeze : Place → List Char → List Char
  | _, [] => []
  | place, char :: rest =>
    if place = .outside ∧ (char = ' ' ∨ char = '\n') then squeeze place rest
    else char :: squeeze (place.next char) rest

/-- Some characters in no text are squeezed to others without a newline, and what follows them is
in no text either. -/
structure Squeezes (all kept : List Char) : Prop where
  /-- The others are left, whatever follows. -/
  leaves : ∀ rest, squeeze .outside (all ++ rest) = kept ++ squeeze .outside rest
  /-- There is no newline in them. -/
  flat : '\n' ∉ kept

namespace Squeezes

theorem nil : Squeezes [] [] := ⟨fun _ => rfl, List.not_mem_nil⟩

/-- Two parts are squeezed one after the other. -/
theorem append {first second left right : List Char} (begins : Squeezes first left)
    (goes : Squeezes second right) : Squeezes (first ++ second) (left ++ right) where
  leaves rest := by rw [List.append_assoc, begins.leaves, goes.leaves, List.append_assoc]
  flat := by
    rw [List.mem_append, not_or]
    exact ⟨begins.flat, goes.flat⟩

/-- Spaces and newlines are left out. -/
theorem blank {space : List Char} (blank : ∀ char ∈ space, char = ' ' ∨ char = '\n') :
    Squeezes space [] where
  leaves rest := by
    induction space with
    | nil => rfl
    | cons char others ih =>
      have own := blank char List.mem_cons_self
      rw [List.cons_append, squeeze, if_pos ⟨rfl, own⟩]
      exact ih fun other inside => blank other (List.mem_cons_of_mem _ inside)
  flat := List.not_mem_nil

/-- Characters that are neither space nor quotes are kept. -/
theorem solid {token : List Char} (solid : ∀ char ∈ token, char ≠ ' ' ∧ char ≠ '\n' ∧ char ≠ '"') :
    Squeezes token token where
  leaves rest := by
    induction token with
    | nil => rfl
    | cons char others ih =>
      obtain ⟨space, newline, quote⟩ := solid char List.mem_cons_self
      have stays : Place.next .outside char = .outside := by simp [Place.next]
      rw [List.cons_append, squeeze, if_neg (by simp [space, newline]), stays,
        ih fun other inside => solid other (List.mem_cons_of_mem _ inside), List.cons_append]
  flat inside := (solid _ inside).2.1 rfl

end Squeezes

/-! ## Texts -/

/-- In a text nothing is left out. -/
theorem squeeze_inside (char : Char) (rest : List Char) :
    squeeze .inside (char :: rest) = char :: squeeze (Place.next .inside char) rest := by
  rw [squeeze, if_neg fun both => nomatch both.1]

/-- The two digits of a byte are neither quotes nor backslashes nor newlines. -/
theorem hexPair_plain (next : UInt8) :
    ∀ digit ∈ Bytes.hexPair next, digit ≠ '"' ∧ digit ≠ '\\' ∧ digit ≠ '\n' :=
  Bytes.forall_mem_hexPair (by decide) next

/-- A scanner is in a text behind characters that are neither quotes nor backslashes. -/
theorem squeeze_plain {part : List Char} (plain : ∀ char ∈ part, char ≠ '"' ∧ char ≠ '\\')
    (rest : List Char) : squeeze .inside (part ++ rest) = part ++ squeeze .inside rest := by
  induction part with
  | nil => rfl
  | cons char others ih =>
    obtain ⟨quote, backslash⟩ := plain char List.mem_cons_self
    have stays : Place.next .inside char = .inside := by simp [Place.next]
    rw [List.cons_append, squeeze_inside, stays,
      ih fun other inside => plain other (List.mem_cons_of_mem _ inside), List.cons_append]

/-- A backslash takes the next character with it. -/
theorem squeeze_escape (letter : Char) (rest : List Char) :
    squeeze .inside ('\\' :: letter :: rest) = '\\' :: letter :: squeeze .inside rest :=
  rfl

/-- What is written for a character is kept, and the text goes on behind it. -/
theorem squeeze_quoteChar (char : Char) (rest : List Char) :
    squeeze .inside (quoteChar char ++ rest) = quoteChar char ++ squeeze .inside rest := by
  obtain ⟨letter, -, written⟩ | ⟨-, written⟩ | ⟨-, quote, backslash, written⟩ :=
    quoteChar_cases char
  · rw [written]
    exact squeeze_escape letter rest
  · have plain : ∀ digit ∈ '0' :: '0' :: Bytes.hexPair (byte char.toNat),
        digit ≠ '"' ∧ digit ≠ '\\' := by
      refine List.forall_mem_cons.2 ⟨by decide, List.forall_mem_cons.2 ⟨by decide, ?_⟩⟩
      intro digit inside
      obtain ⟨quote, backslash, -⟩ := hexPair_plain _ digit inside
      exact ⟨quote, backslash⟩
    have digits := squeeze_plain plain rest
    simp only [List.cons_append] at digits
    rw [written]
    simp only [List.cons_append]
    rw [squeeze_escape, digits]
  · rw [written]
    exact squeeze_plain (List.forall_mem_singleton.2 ⟨quote, backslash⟩) rest

/-- What is written for a character has no newline. -/
theorem newline_not_mem_quoteChar (char : Char) : '\n' ∉ quoteChar char := by
  obtain ⟨letter, named, written⟩ | ⟨-, written⟩ | ⟨printed, -, -, written⟩ :=
    quoteChar_cases char
  · have other : '\n' ≠ letter := by
      rintro rfl
      cases named
    rw [written]
    simp [other]
  · have digits : '\n' ∉ Bytes.hexPair (byte char.toNat) :=
      fun inside => (hexPair_plain _ _ inside).2.2 rfl
    rw [written]
    simp [digits]
  · rw [written, List.mem_singleton]
    rintro rfl
    exact absurd printed (by decide)

/-- A text between its quotes is kept. -/
theorem Squeezes.quote (text : String) : Squeezes (quote text).toList (quote text).toList := by
  have chars : (Json.quote text).toList = '"' :: (text.toList.flatMap quoteChar ++ ['"']) :=
    String.toList_ofList
  have body (letters rest : List Char) : squeeze .inside (letters.flatMap quoteChar ++ rest) =
      letters.flatMap quoteChar ++ squeeze .inside rest := by
    induction letters with
    | nil => rfl
    | cons char others ih =>
      rw [List.flatMap_cons, List.append_assoc, squeeze_quoteChar, ih, List.append_assoc]
  rw [chars]
  constructor
  · intro rest
    have opens : squeeze .outside ('"' :: (text.toList.flatMap quoteChar ++ ('"' :: rest))) =
        '"' :: squeeze .inside (text.toList.flatMap quoteChar ++ ('"' :: rest)) := rfl
    have closes : squeeze .inside ('"' :: rest) = '"' :: squeeze .outside rest := rfl
    simp only [List.cons_append, List.append_assoc, List.nil_append]
    rw [opens, body, closes]
  · simp [newline_not_mem_quoteChar]

/-! ## Values -/

/-- What begins an item is left out. -/
theorem squeezes_lineBreak (layout : Layout) (depth : Nat) :
    Squeezes (layout.lineBreak depth).toList [] :=
  .blank (layout.mem_lineBreak depth)

/-- A colon is kept, and the space behind it is left out. -/
theorem squeezes_colon (layout : Layout) :
    Squeezes layout.colon.toList (Layout.colon .compact).toList := by
  have colon : Squeezes [':'] [':'] := .solid (by simp)
  cases layout with
  | compact => exact colon
  | pretty => exact colon.append (.blank (List.forall_mem_singleton.2 (.inl rfl)))

/-- Commas are kept. -/
theorem squeezes_separator {α : Type} (rest : List α) :
    Squeezes (chars (separator rest)) (chars (separator rest)) := by
  have comma : Squeezes [','] [','] := .solid (by simp)
  cases rest with
  | nil => exact .nil
  | cons => exact comma

/-- What begins the closing bracket is left out. -/
theorem squeezes_closing {α : Type} (layout : Layout) (depth place : Nat) (content : List α) :
    Squeezes (chars (closing layout depth content)) (chars (closing .compact place content)) := by
  unfold closing
  cases content with
  | nil => exact .nil
  | cons => exact (squeezes_lineBreak layout depth).append .nil

/-- A number is kept. -/
theorem squeezes_decimal (number : Nat) :
    Squeezes (toString number).toList (toString number).toList := by
  apply Squeezes.solid
  intro char inside
  have digit : char.isDigit := Text.isDigit_decimal inside
  refine ⟨?_, ?_, ?_⟩
  all_goals
    rintro rfl
    cases digit

mutual

/-- A value in either layout is squeezed to the compact one. -/
theorem Value.squeezes (layout : Layout) (depth place : Nat) (value : Value) :
    Squeezes (chars (value.tokens layout depth)) (chars (value.tokens .compact place)) := by
  match value with
  | .string text => exact (Squeezes.quote text).append .nil
  | .number value => exact (squeezes_decimal value).append .nil
  | .bool true =>
    have word : Squeezes "true".toList "true".toList := .solid (by simp)
    exact word.append .nil
  | .bool false =>
    have word : Squeezes "false".toList "false".toList := .solid (by simp)
    exact word.append .nil
  | .array items =>
    have opens : Squeezes ['['] ['['] := .solid (by simp)
    have closes : Squeezes [']'] [']'] := .solid (by simp)
    have content := squeezes_itemTokens layout (depth + 1) (place + 1) items
    have last := squeezes_closing layout depth place items
    simp only [Value.tokens, chars_cons, chars_append]
    exact opens.append ((content.append last).append closes)
  | .object members =>
    have opens : Squeezes ['\x7b'] ['\x7b'] := .solid (by simp)
    have closes : Squeezes ['\x7d'] ['\x7d'] := .solid (by simp)
    have content := squeezes_memberTokens layout (depth + 1) (place + 1) members
    have last := squeezes_closing layout depth place members
    simp only [Value.tokens, chars_cons, chars_append]
    exact opens.append ((content.append last).append closes)

/-- The items of an array in either layout are squeezed to the compact one. -/
theorem squeezes_itemTokens (layout : Layout) (depth place : Nat) (items : List Value) :
    Squeezes (chars (itemTokens layout depth items)) (chars (itemTokens .compact place items)) := by
  match items with
  | [] => exact .nil
  | item :: rest =>
    have own := item.squeezes layout depth place
    have others := squeezes_itemTokens layout depth place rest
    simp only [itemTokens, chars_cons, chars_append]
    exact (squeezes_lineBreak layout depth).append
      ((own.append (squeezes_separator rest)).append others)

/-- The members of an object in either layout are squeezed to the compact one. -/
theorem squeezes_memberTokens (layout : Layout) (depth place : Nat)
    (members : List (String × Value)) :
    Squeezes (chars (memberTokens layout depth members))
      (chars (memberTokens .compact place members)) := by
  match members with
  | [] => exact .nil
  | (name, value) :: rest =>
    have own := value.squeezes layout depth place
    have others := squeezes_memberTokens layout depth place rest
    simp only [memberTokens, chars_cons, chars_append]
    exact (squeezes_lineBreak layout depth).append ((Squeezes.quote name).append
      ((squeezes_colon layout).append ((own.append (squeezes_separator rest)).append others)))

end

/-! ## Documents -/

/-- The layouts of a document differ in space between tokens only. The pretty text without the
spaces and newlines that are in no text, and with a newline at its end, is the compact text, and the
bytes of that have a newline at their end and no other one. -/
theorem layouts_agree (document : Document) (name : String) :
    ∃ pretty compact : String,
      Utf8.decode (render .pretty document name).bytes = .ok pretty ∧
      Utf8.decode (render .compact document name).bytes = .ok compact ∧
      squeeze .outside pretty.toList ++ ['\n'] = compact.toList ∧
      ∃ line, (render .compact document name).bytes = line ++ [0x0A] ∧ 0x0A ∉ line := by
  have squeezes := (ofDocument document name).squeezes .pretty 0 0
  refine ⟨documentText .pretty document name, documentText .compact document name, ?_, ?_, ?_,
    Utf8.encode ((ofDocument document name).text .compact), ?_, ?_⟩
  · rw [bytes_render, Utf8.decode_encode]
  · rw [bytes_render, Utf8.decode_encode]
  · have last : squeeze .outside ['\n'] = [] := rfl
    rw [toList_documentText, toList_documentText, squeezes.leaves, last, List.append_nil]
  · rw [bytes_render, documentText, Utf8.encode_append]
    rfl
  · intro inside
    have newline : '\n' ∈ ((ofDocument document name).text .compact).toList :=
      Utf8.byte_mem_encode (by decide) inside
    rw [Value.text, String.toList_join] at newline
    exact squeezes.flat newline

end AstView.Json

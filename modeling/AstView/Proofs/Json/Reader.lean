import AstView.Json
import AstView.Proofs.Json.Token
import AstView.Proofs.Utf8

/-!
# Reading JSON

A value is read back in two steps. Its text is cut into its tokens, which are the same in both
layouts (`Value.lex_tokens`), and from the tokens the value is read (`readValue_lexemes`). Both
steps go on with whatever follows. So the object of a document is read back from its bytes
(`read_render`).
-/
namespace AstView.Json

/-! ## The tokens of values -/

/-- The comma between an item or a member and the others. -/
def commaBefore {α : Type} (rest : List α) : List Token := if rest.isEmpty then [] else [.comma]

mutual

/-- The tokens of a value without the space between them. -/
def Value.lexemes : Value → List Token
  | .string text => [.text text]
  | .number value => [.number value]
  | .bool value => [.flag value]
  | .array items => .openArray :: (itemLexemes items ++ [.closeArray])
  | .object members => .openObject :: (memberLexemes members ++ [.closeObject])

/-- The tokens of the items of an array. -/
def itemLexemes : List Value → List Token
  | [] => []
  | item :: rest => item.lexemes ++ commaBefore rest ++ itemLexemes rest

/-- The tokens of the members of an object. -/
def memberLexemes : List (String × Value) → List Token
  | [] => []
  | (name, value) :: rest =>
    .text name :: .colon :: (value.lexemes ++ commaBefore rest ++ memberLexemes rest)

end

/-- The characters of some texts in a row. -/
def chars (texts : List String) : List Char := texts.flatMap String.toList

theorem chars_cons (text : String) (rest : List String) :
    chars (text :: rest) = text.toList ++ chars rest := List.flatMap_cons

theorem chars_append (first second : List String) :
    chars (first ++ second) = chars first ++ chars second := List.flatMap_append

/-- Tokens in a row are those of the first part and then the others. -/
theorem map_append_map {found : Option (List Token)} (first second : List Token) :
    (found.map (second ++ ·)).map (first ++ ·) = found.map (first ++ second ++ ·) := by
  cases found with
  | none => rfl
  | some tokens => simp only [Option.map_some, List.append_assoc]

/-- What begins an item are spaces and newlines. -/
theorem Layout.mem_lineBreak (layout : Layout) (depth : Nat) :
    ∀ char ∈ (layout.lineBreak depth).toList, char = ' ' ∨ char = '\n' := by
  intro char inside
  cases layout with
  | compact => cases inside
  | pretty =>
    rw [Layout.lineBreak, String.toList_append, List.mem_append, String.toList_join,
      List.mem_flatMap] at inside
    obtain newline | ⟨text, repeated, inside⟩ := inside
    · exact .inr (List.mem_singleton.1 newline)
    · have two : "  ".toList = List.replicate 2 ' ' := rfl
      rw [List.eq_of_mem_replicate repeated, two] at inside
      exact .inl (List.eq_of_mem_replicate inside)

/-- What begins an item is space. -/
theorem Layout.blank_lineBreak (layout : Layout) (depth : Nat) :
    ∀ char ∈ (layout.lineBreak depth).toList, isSpace char = true := by
  intro char inside
  obtain rfl | rfl := layout.mem_lineBreak depth char inside <;> rfl

/-- What begins an item is left out. -/
theorem lex_lineBreak (layout : Layout) (depth : Nat) (rest : List Char) :
    lex ((layout.lineBreak depth).toList ++ rest) = lex rest :=
  lex_space (layout.blank_lineBreak depth) rest

/-- A colon is a token, whatever space stands behind it. -/
theorem lex_colon (layout : Layout) (rest : List Char) :
    lex (layout.colon.toList ++ rest) = (lex rest).map (.colon :: ·) := by
  cases layout with
  | compact => exact lex_mark rfl rest
  | pretty =>
    have blank : ∀ char ∈ [' '], isSpace char = true := List.forall_mem_singleton.2 rfl
    have space : lex (' ' :: rest) = lex rest := lex_space blank rest
    have mark : lex (':' :: ' ' :: rest) = (lex (' ' :: rest)).map (.colon :: ·) := lex_mark rfl _
    exact mark.trans (by rw [space])

/-- A comma is a token where there is one. -/
theorem lex_separator {α : Type} (others : List α) (rest : List Char) :
    lex (chars (separator others) ++ rest) = (lex rest).map (commaBefore others ++ ·) := by
  unfold separator commaBefore
  cases others with
  | nil => exact Option.map_id'.symm
  | cons => exact lex_mark rfl rest

/-- What begins the closing bracket is space. -/
theorem lex_closing {α : Type} (layout : Layout) (depth : Nat) (content : List α)
    (rest : List Char) : lex (chars (closing layout depth content) ++ rest) = lex rest := by
  unfold closing
  cases content with
  | nil => rfl
  | cons =>
    have single : chars [layout.lineBreak depth] = (layout.lineBreak depth).toList :=
      List.append_nil _
    simp only [List.isEmpty_cons, Bool.false_eq_true, if_false, single, lex_lineBreak]

/-- A comma ends a number, and so does what follows the last item if that does. -/
theorem endsNumber_separator {α : Type} {others : List α} {rest : List Char}
    (last : others = [] → EndsNumber rest) : EndsNumber (chars (separator others) ++ rest) := by
  cases others with
  | nil => exact last rfl
  | cons =>
    intro char more same
    cases same
    rfl

/-- The closing bracket or the space before it ends a number. -/
theorem endsNumber_closing {α : Type} (layout : Layout) (depth : Nat) (content : List α)
    {bracket : Char} (solid : bracket.isDigit = false) (rest : List Char) :
    EndsNumber (chars (closing layout depth content) ++ bracket :: rest) := by
  intro char more same
  cases content with
  | nil =>
    cases same
    exact solid
  | cons first others =>
    cases layout with
    | compact =>
      cases same
      exact solid
    | pretty =>
      have begins : chars (closing .pretty depth (first :: others)) =
          '\n' :: (String.join (List.replicate depth "  ")).toList := by
        simp [closing, chars, Layout.lineBreak]
      rw [begins] at same
      cases same
      rfl

mutual

/-- A value is cut into its tokens in either layout. -/
theorem Value.lex_tokens (layout : Layout) (depth : Nat) (value : Value) {rest : List Char}
    (ends : EndsNumber rest) :
    lex (chars (value.tokens layout depth) ++ rest) = (lex rest).map (value.lexemes ++ ·) := by
  match value with
  | .string text =>
    simp only [Value.tokens, chars_cons, List.append_assoc]
    exact lex_quote text rest
  | .number value =>
    simp only [Value.tokens, chars_cons, List.append_assoc]
    exact lex_decimal value ends
  | .bool value =>
    simp only [Value.tokens, chars_cons, List.append_assoc]
    exact lex_flag value rest
  | .array items =>
    have solid : Char.isDigit ']' = false := rfl
    have closes := endsNumber_closing layout depth items solid rest
    have inner := lex_itemTokens layout (depth + 1) items closes
    have mark : lex (']' :: rest) = (lex rest).map (.closeArray :: ·) := lex_mark rfl rest
    have whole : chars ((Value.array items).tokens layout depth) ++ rest =
        '[' :: (chars (itemTokens layout (depth + 1) items) ++
          (chars (closing layout depth items) ++ ']' :: rest)) := by
      simp only [Value.tokens, chars_cons, chars_append, List.append_assoc]
      rfl
    rw [whole, lex_mark rfl, inner, lex_closing, mark, Value.lexemes]
    cases lex rest with
    | none => rfl
    | some tokens =>
      simp only [Option.map_some, List.cons_append, List.append_assoc, List.nil_append]
  | .object members =>
    have solid : Char.isDigit '\x7d' = false := rfl
    have closes := endsNumber_closing layout depth members solid rest
    have inner := lex_memberTokens layout (depth + 1) members closes
    have mark : lex ('\x7d' :: rest) = (lex rest).map (.closeObject :: ·) := lex_mark rfl rest
    have whole : chars ((Value.object members).tokens layout depth) ++ rest =
        '\x7b' :: (chars (memberTokens layout (depth + 1) members) ++
          (chars (closing layout depth members) ++ '\x7d' :: rest)) := by
      simp only [Value.tokens, chars_cons, chars_append, List.append_assoc]
      rfl
    rw [whole, lex_mark rfl, inner, lex_closing, mark, Value.lexemes]
    cases lex rest with
    | none => rfl
    | some tokens =>
      simp only [Option.map_some, List.cons_append, List.append_assoc, List.nil_append]

/-- The items of an array are cut into their tokens. -/
theorem lex_itemTokens (layout : Layout) (depth : Nat) (items : List Value) {rest : List Char}
    (ends : EndsNumber rest) :
    lex (chars (itemTokens layout depth items) ++ rest) =
      (lex rest).map (itemLexemes items ++ ·) := by
  match items with
  | [] => exact Option.map_id'.symm
  | item :: others =>
    have stops : EndsNumber (chars (separator others) ++
        (chars (itemTokens layout depth others) ++ rest)) := by
      apply endsNumber_separator
      rintro rfl
      exact ends
    have whole : chars (itemTokens layout depth (item :: others)) ++ rest =
        (layout.lineBreak depth).toList ++ (chars (item.tokens layout depth) ++
          (chars (separator others) ++ (chars (itemTokens layout depth others) ++ rest))) := by
      simp only [itemTokens, chars_cons, chars_append, List.append_assoc]
    rw [whole, lex_lineBreak, Value.lex_tokens layout depth item stops, lex_separator,
      lex_itemTokens layout depth others ends, map_append_map, map_append_map, itemLexemes,
      List.append_assoc]

/-- The members of an object are cut into their tokens. -/
theorem lex_memberTokens (layout : Layout) (depth : Nat) (members : List (String × Value))
    {rest : List Char} (ends : EndsNumber rest) :
    lex (chars (memberTokens layout depth members) ++ rest) =
      (lex rest).map (memberLexemes members ++ ·) := by
  match members with
  | [] => exact Option.map_id'.symm
  | (name, value) :: others =>
    have stops : EndsNumber (chars (separator others) ++
        (chars (memberTokens layout depth others) ++ rest)) := by
      apply endsNumber_separator
      rintro rfl
      exact ends
    have whole : chars (memberTokens layout depth ((name, value) :: others)) ++ rest =
        (layout.lineBreak depth).toList ++ ((quote name).toList ++ (layout.colon.toList ++
          (chars (value.tokens layout depth) ++ (chars (separator others) ++
            (chars (memberTokens layout depth others) ++ rest))))) := by
      simp only [memberTokens, chars_cons, chars_append, List.append_assoc]
    rw [whole, lex_lineBreak, lex_quote, lex_colon, Value.lex_tokens layout depth value stops,
      lex_separator, lex_memberTokens layout depth others ends, map_append_map, map_append_map,
      memberLexemes]
    cases lex rest <;> simp only [Option.map_none, Option.map_some, List.cons_append,
      List.append_assoc]

end

/-! ## Values -/

mutual

/-- Reads a value and leaves the tokens after it. -/
def readValue (all : List Token) : Option (Value × List Token) :=
  match all with
  | .text text :: rest => some (.string text, rest)
  | .number value :: rest => some (.number value, rest)
  | .flag value :: rest => some (.bool value, rest)
  | .openArray :: .closeArray :: rest => some (.array [], rest)
  | .openArray :: rest => (readItems rest).map fun (items, left) => (.array items, left)
  | .openObject :: .closeObject :: rest => some (.object [], rest)
  | .openObject :: rest => (readMembers rest).map fun (members, left) => (.object members, left)
  | _ => none
termination_by (all.length, 0)

/-- Reads one or more items up to the bracket that closes their array. What an item leaves is never
longer than what was given; that is looked at so that the reading is seen to end. -/
def readItems (all : List Token) : Option (List Value × List Token) :=
  match readValue all with
  | some (item, .closeArray :: left) => some ([item], left)
  | some (item, .comma :: left) =>
    if left.length < all.length then
      (readItems left).map fun (others, left) => (item :: others, left)
    else none
  | _ => none
termination_by (all.length, 1)

/-- Reads one or more members up to the brace that closes their object. -/
def readMembers (all : List Token) : Option (List (String × Value) × List Token) :=
  match all with
  | .text name :: .colon :: rest =>
    match readValue rest with
    | some (value, .closeObject :: left) => some ([(name, value)], left)
    | some (value, .comma :: left) =>
      if left.length < rest.length then
        (readMembers left).map fun (others, left) => ((name, value) :: others, left)
      else none
    | _ => none
  | _ => none
termination_by (all.length, 1)

end

/-- No value begins with the bracket that closes an array. -/
theorem lexemes_ne_closeArray (value : Value) (rest more : List Token) :
    value.lexemes ++ rest ≠ .closeArray :: more := by
  intro same
  cases value with
  | string text => cases same
  | number value => cases same
  | bool value => cases same
  | array items => cases same
  | object members => cases same

/-- Behind its bracket, an array with items is its items. -/
theorem readValue_openArray {rest : List Token} (more : ∀ others, rest ≠ .closeArray :: others) :
    readValue (.openArray :: rest) =
      (readItems rest).map fun (items, left) => (.array items, left) := by
  rw [readValue]
  exact more

mutual

/-- A value is read back from its tokens. -/
theorem readValue_lexemes (value : Value) (rest : List Token) :
    readValue (value.lexemes ++ rest) = some (value, rest) := by
  match value with
  | .string text =>
    rw [Value.lexemes, List.singleton_append, readValue]
  | .number value =>
    rw [Value.lexemes, List.singleton_append, readValue]
  | .bool value =>
    rw [Value.lexemes, List.singleton_append, readValue]
  | .array [] =>
    rw [Value.lexemes, itemLexemes, List.nil_append, List.cons_append, List.singleton_append,
      readValue]
  | .array (item :: others) =>
    have items := readItems_lexemes (item :: others) (List.cons_ne_nil item others) rest
    have more : ∀ tail, itemLexemes (item :: others) ++ .closeArray :: rest ≠
        .closeArray :: tail := by
      rw [itemLexemes, List.append_assoc, List.append_assoc]
      exact lexemes_ne_closeArray item _
    rw [Value.lexemes, List.cons_append, List.append_assoc, List.singleton_append,
      readValue_openArray more, items, Option.map_some]
  | .object [] =>
    rw [Value.lexemes, memberLexemes, List.nil_append, List.cons_append, List.singleton_append,
      readValue]
  | .object (member :: others) =>
    have members := readMembers_lexemes (member :: others) (List.cons_ne_nil member others) rest
    rw [Value.lexemes, List.cons_append, List.append_assoc, List.singleton_append, readValue,
      members, Option.map_some]
    intro tail same
    rw [memberLexemes, List.cons_append] at same
    cases same

/-- The items of an array are read back up to its bracket. -/
theorem readItems_lexemes (items : List Value) (filled : items ≠ []) (rest : List Token) :
    readItems (itemLexemes items ++ .closeArray :: rest) = some (items, rest) := by
  match items with
  | [] => exact absurd rfl filled
  | [item] =>
    have first := readValue_lexemes item (.closeArray :: rest)
    have whole : itemLexemes [item] ++ .closeArray :: rest =
        item.lexemes ++ .closeArray :: rest := by
      simp only [itemLexemes, commaBefore, List.isEmpty_nil, if_true, List.append_nil]
    rw [whole, readItems, first]
  | item :: next :: later =>
    have first := readValue_lexemes item
      (.comma :: (itemLexemes (next :: later) ++ .closeArray :: rest))
    have others := readItems_lexemes (next :: later) (List.cons_ne_nil next later) rest
    have whole : itemLexemes (item :: next :: later) ++ .closeArray :: rest =
        item.lexemes ++ .comma :: (itemLexemes (next :: later) ++ .closeArray :: rest) := by
      rw [itemLexemes]
      simp only [commaBefore, List.isEmpty_cons, Bool.false_eq_true, if_false, List.append_assoc,
        List.cons_append, List.nil_append]
    have shorter : (itemLexemes (next :: later) ++ .closeArray :: rest).length <
        (item.lexemes ++ .comma ::
          (itemLexemes (next :: later) ++ .closeArray :: rest)).length := by
      simp only [List.length_append, List.length_cons]
      omega
    rw [whole, readItems, first]
    simp only [if_pos shorter, others, Option.map_some]

/-- The members of an object are read back up to its brace. -/
theorem readMembers_lexemes (members : List (String × Value)) (filled : members ≠ [])
    (rest : List Token) :
    readMembers (memberLexemes members ++ .closeObject :: rest) = some (members, rest) := by
  match members with
  | [] => exact absurd rfl filled
  | [(name, value)] =>
    have first := readValue_lexemes value (.closeObject :: rest)
    have whole : memberLexemes [(name, value)] ++ .closeObject :: rest =
        .text name :: .colon :: (value.lexemes ++ .closeObject :: rest) := by
      simp only [memberLexemes, commaBefore, List.isEmpty_nil, if_true, List.append_nil,
        List.cons_append]
    rw [whole, readMembers, first]
  | (name, value) :: next :: later =>
    have first := readValue_lexemes value
      (.comma :: (memberLexemes (next :: later) ++ .closeObject :: rest))
    have others := readMembers_lexemes (next :: later) (List.cons_ne_nil next later) rest
    have whole : memberLexemes ((name, value) :: next :: later) ++ .closeObject :: rest =
        .text name :: .colon :: (value.lexemes ++ .comma ::
          (memberLexemes (next :: later) ++ .closeObject :: rest)) := by
      rw [memberLexemes]
      simp only [commaBefore, List.isEmpty_cons, Bool.false_eq_true, if_false, List.append_assoc,
        List.cons_append, List.nil_append]
    have shorter : (memberLexemes (next :: later) ++ .closeObject :: rest).length <
        (value.lexemes ++ .comma ::
          (memberLexemes (next :: later) ++ .closeObject :: rest)).length := by
      simp only [List.length_append, List.length_cons]
      omega
    rw [whole, readMembers, first]
    simp only [if_pos shorter, others, Option.map_some]

end

/-! ## Documents -/

/-- The whole text of the object of a document. -/
def documentText (layout : Layout) (document : Document) (name : String) : String :=
  (ofDocument document name).text layout ++ "\n"

/-- The bytes that are written are those of the text. -/
theorem bytes_render (layout : Layout) (document : Document) (name : String) :
    (render layout document name).bytes = Utf8.encode (documentText layout document name) := by
  have joined : String.join ((ofDocument document name).tokens layout 0 ++ ["\n"]) =
      documentText layout document name := by
    rw [documentText, Value.text, String.join_append, String.join_cons, String.join_nil,
      String.append_empty]
  rw [render, Rendering.bytes, ← Utf8.encode_join, joined]

/-- The characters of that text are those of the object and a newline. -/
theorem toList_documentText (layout : Layout) (document : Document) (name : String) :
    (documentText layout document name).toList =
      chars ((ofDocument document name).tokens layout 0) ++ ['\n'] := by
  rw [documentText, Value.text, String.toList_append, String.toList_join]
  rfl

/-- Reads bytes that are one JSON value and nothing else. -/
def read (bytes : Bytes) : Option Value :=
  match Utf8.decode bytes with
  | .ok text =>
    match (lex text.toList).bind readValue with
    | some (value, []) => some value
    | _ => none
  | .error _ => none

/-- The object of a document is read back in either layout. -/
theorem read_render (layout : Layout) (document : Document) (name : String) :
    read (render layout document name).bytes = some (ofDocument document name) := by
  have ends : EndsNumber ['\n'] := by
    intro char more same
    cases same
    rfl
  have blank : ∀ char ∈ ['\n'], isSpace char = true := List.forall_mem_singleton.2 rfl
  have last : lex ['\n'] = some [] := by
    have nothing : lex [] = some [] := by rw [lex]
    exact (lex_space blank []).trans nothing
  have tokens := (ofDocument document name).lex_tokens layout 0 ends
  have value := readValue_lexemes (ofDocument document name) []
  rw [last, Option.map_some, ← toList_documentText] at tokens
  simp only [read, bytes_render, Utf8.decode_encode, tokens, Option.bind_some, value]

end AstView.Json

import AstView.Toml

/-!
# Plain lines of TOML documents

A comment, a header of a table and a key with a text or a truth value are each read off the front of
a document, whatever comes behind them (`takes_remark`, `takes_header`, `takes_pair`). A document
that is made of such lines is read line by line (`lines_join`). Values can be compared
(`Value.same_iff`), so what a short document of any other form says can be computed.
-/
namespace AstView

namespace Scan

variable {α β : Type}

/-- Reading goes on behind what was read. -/
theorem bind_some {scan : Scan α} {next : α → Scan β} {input rest : List Char} {found : α}
    (reads : scan input = some (found, rest)) : (scan >>= next) input = next found rest := by
  simp only [bind, StateT.bind, Option.bind, reads]

/-- Nothing is read behind what is not there. -/
theorem bind_none {scan : Scan α} {next : α → Scan β} {input : List Char}
    (fails : scan input = none) : (scan >>= next) input = none := by
  simp only [bind, StateT.bind, Option.bind, fails]

/-- What is read may be changed. -/
theorem map_some {scan : Scan α} {change : α → β} {input rest : List Char} {found : α}
    (reads : scan input = some (found, rest)) :
    (change <$> scan) input = some (change found, rest) := by
  simp only [Functor.map, StateT.map, bind, Option.bind, reads]
  rfl

/-- What is not there is not there if it would be changed. -/
theorem map_none {scan : Scan α} {change : α → β} {input : List Char}
    (fails : scan input = none) : (change <$> scan) input = none := by
  simp only [Functor.map, StateT.map, bind, Option.bind, fails]

/-- What may be there and is not is left out. -/
theorem maybe_none {scan : Scan α} {input : List Char} (fails : scan input = none) :
    maybe scan input = some (none, input) := by
  change ((some <$> scan) input <|> some (none, input)) = _
  rw [map_none fails]
  rfl

/-- The first of some things that is not there is passed over. -/
theorem firstOf_none {scan : Scan α} {scans : List (Scan α)} {input : List Char}
    (fails : scan input = none) : firstOf (scan :: scans) input = firstOf scans input := by
  change (scan input <|> firstOf scans input) = _
  rw [fails]
  rfl

/-- The first of some things is read if it is there. -/
theorem firstOf_some {scan : Scan α} {scans : List (Scan α)} {input : List Char}
    {result : α × List Char} (reads : scan input = some result) :
    firstOf (scan :: scans) input = some result := by
  change (scan input <|> firstOf scans input) = _
  rw [reads]
  rfl

/-- A certain character is read. -/
theorem char_some (expected : Char) (rest : List Char) :
    char expected (expected :: rest) = some (expected, rest) := if_pos (beq_self_eq_true expected)

/-- Another character is not read. -/
theorem char_none {expected head : Char} (other : head ≠ expected) (rest : List Char) :
    char expected (head :: rest) = none := if_neg (by simpa using other)

/-- Characters are read up to the first with another property. -/
theorem span_append {property : Char → Bool} {chars : List Char}
    (own : chars.all property = true) {after : Char} (other : property after = false)
    (rest : List Char) : span property (chars ++ after :: rest) = some (chars, after :: rest) := by
  rw [List.all_eq_true] at own
  rw [span, List.takeWhile_append_of_pos own, List.dropWhile_append_of_pos own,
    List.takeWhile_cons_of_neg (by simpa using other),
    List.dropWhile_cons_of_neg (by simpa using other), List.append_nil]

/-- A scanner reads a thing off a piece of text, whatever comes behind that. -/
def Takes (scan : Scan α) (piece : List Char) (found : α) : Prop :=
  ∀ rest, scan (piece ++ rest) = some (found, rest)

/-- Things that are there one after the other are all read, up to where there is none. -/
theorem many_flatten {scan : Scan α} {pieces : List (List Char × α)} {rest : List Char}
    (takes : ∀ piece ∈ pieces, piece.1 ≠ [] ∧ Takes scan piece.1 piece.2)
    (ends : scan rest = none) :
    many scan ((pieces.map (·.1)).flatten ++ rest) = some (pieces.map (·.2), rest) := by
  induction pieces with
  | nil =>
    rw [many]
    simp only [List.map_nil, List.flatten_nil, List.nil_append, ends]
  | cons head tail ih =>
    obtain ⟨⟨filled, taken⟩, others⟩ := List.forall_mem_cons.1 takes
    have step := taken ((tail.map (·.1)).flatten ++ rest)
    have shorter : ((tail.map (·.1)).flatten ++ rest).length <
        (head.1 ++ ((tail.map (·.1)).flatten ++ rest)).length := by
      have nonempty : 0 < head.1.length := List.length_pos_iff.2 filled
      simp only [List.length_append]
      omega
    rw [many]
    simp only [List.map_cons, List.flatten_cons, List.append_assoc, step, if_pos shorter,
      ih others, Option.map_some]

end Scan

namespace Toml

/-! ## Keys -/

/-- A name that needs no quotes. -/
def Bare (name : List Char) : Prop := name ≠ [] ∧ name.all isBare = true

instance (name : List Char) : Decidable (Bare name) := inferInstanceAs (Decidable (_ ∧ _))

/-- A character of a name without quotes is no blank and no sign that begins something else. -/
theorem isBare_apart {char : Char} (bare : isBare char = true) :
    isBlank char = false ∧ char ≠ '[' ∧ char ≠ '"' ∧ char ≠ '\'' := by
  refine ⟨Bool.eq_false_iff.2 fun blank => ?_, ?_, ?_, ?_⟩
  · rw [isBlank, Bool.or_eq_true, beq_iff_eq, beq_iff_eq] at blank
    rcases blank with rfl | rfl <;> cases bare
  all_goals
    rintro rfl
    cases bare

/-- A name without quotes begins with one of its characters. -/
theorem Bare.exists_cons {name : List Char} (bare : Bare name) :
    ∃ head tail, name = head :: tail ∧ isBare head = true ∧ tail.all isBare = true := by
  obtain ⟨filled, own⟩ := bare
  obtain ⟨head, tail, rfl⟩ := List.exists_cons_of_ne_nil filled
  rw [List.all_cons, Bool.and_eq_true] at own
  exact ⟨head, tail, rfl, own.1, own.2⟩

/-- No blanks are read in front of something else. -/
theorem blanks_none {head : Char} (filled : isBlank head = false) (rest : List Char) :
    blanks (head :: rest) = some ([], head :: rest) :=
  Scan.span_append (show [].all isBlank = true from rfl) filled rest

/-- A name without quotes is read up to what cannot belong to it. -/
theorem simpleKey_bare {name : List Char} (bare : Bare name) {after : Char}
    (ends : isBare after = false) (rest : List Char) :
    simpleKey (name ++ after :: rest) = some (String.ofList name, after :: rest) := by
  obtain ⟨head, tail, rfl, own, others⟩ := bare.exists_cons
  obtain ⟨-, -, basic, literal⟩ := isBare_apart own
  have noBasic : basicString (head :: tail ++ after :: rest) = none :=
    Scan.bind_none (Scan.char_none basic _)
  have noLiteral : literalString (head :: tail ++ after :: rest) = none :=
    Scan.bind_none (Scan.char_none literal _)
  have read : Scan.spanSome isBare (head :: tail ++ after :: rest) =
      some (head :: tail, after :: rest) := by
    have first : Scan.one isBare (head :: (tail ++ after :: rest)) =
        some (head, tail ++ after :: rest) := if_pos own
    exact (Scan.bind_some first).trans (Scan.bind_some (Scan.span_append others ends rest))
  rw [simpleKey, Scan.firstOf_none noBasic, Scan.firstOf_none noLiteral]
  exact Scan.firstOf_some (Scan.bind_some read)

/-- A blank does not belong to a name. -/
theorem isBare_blank {char : Char} (blank : isBlank char = true) : isBare char = false := by
  refine Bool.eq_false_iff.2 fun bare => ?_
  rw [(isBare_apart bare).1] at blank
  cases blank

/-- A name without quotes is a key, up to what follows the blanks behind it. -/
theorem key_bare {name : List Char} (bare : Bare name) (gap : List Char)
    (blank : gap.all isBlank = true) {after : Char} (filled : isBlank after = false)
    (ends : isBare after = false) (last : after ≠ '.') (rest : List Char) :
    key (name ++ (gap ++ after :: rest)) = some (([], String.ofList name), after :: rest) := by
  have noBlanks : blanks (name ++ (gap ++ after :: rest)) =
      some ([], name ++ (gap ++ after :: rest)) := by
    obtain ⟨head, tail, rfl, own, -⟩ := bare.exists_cons
    exact blanks_none (isBare_apart own).1 _
  have named : simpleKey (name ++ (gap ++ after :: rest)) =
      some (String.ofList name, gap ++ after :: rest) := by
    cases gap with
    | nil => exact simpleKey_bare bare ends rest
    | cons space more =>
      rw [List.all_cons, Bool.and_eq_true] at blank
      exact simpleKey_bare bare (isBare_blank blank.1) _
  have skipped : blanks (gap ++ after :: rest) = some (gap, after :: rest) :=
    Scan.span_append blank filled rest
  have single : (do
      let _ ← blanks
      let name ← simpleKey
      let _ ← blanks
      return name : Scan String) (name ++ (gap ++ after :: rest)) =
        some (String.ofList name, after :: rest) :=
    (Scan.bind_some noBlanks).trans ((Scan.bind_some named).trans (Scan.bind_some skipped))
  have alone (scan : Scan String) : Scan.many (do
      let _ ← Scan.char '.'
      scan) (after :: rest) = some ([], after :: rest) := by
    rw [Scan.many, Scan.bind_none (Scan.char_none last rest)]
  have names : Scan.separated (do
      let _ ← blanks
      let name ← simpleKey
      let _ ← blanks
      return name) (Scan.char '.') (name ++ (gap ++ after :: rest)) =
        some ([String.ofList name], after :: rest) :=
    (Scan.bind_some single).trans (Scan.bind_some (alone _))
  exact Scan.bind_some names

/-! ## Values -/

/-- A text without a blank at its front is read as a value, up to the end of the line. -/
def Written (text : List Char) (found : Value) : Prop :=
  (∃ head tail, text = head :: tail ∧ isBlank head = false) ∧
    ∀ rest, value nestingLimit (text ++ '\n' :: rest) = some (found, '\n' :: rest)

/-- The text of a truth value. -/
theorem written_flag (flag : Bool) :
    Written (if flag then ['t', 'r', 'u', 'e'] else ['f', 'a', 'l', 's', 'e']) (.boolean flag) := by
  cases flag with
  | true => exact ⟨⟨_, _, rfl, rfl⟩, fun _ => rfl⟩
  | false => exact ⟨⟨_, _, rfl, rfl⟩, fun _ => rfl⟩

/-- A character that stands for itself is no quote. -/
theorem isBasic_apart {char : Char} (basic : isBasic char = true) : char ≠ '"' := by
  rintro rfl
  cases basic

/-- Characters that stand for themselves are read between quotes. -/
theorem basicString_plain {chars : List Char} (own : chars.all isBasic = true)
    (rest : List Char) :
    basicString ('"' :: (chars ++ '"' :: rest)) = some (String.ofList chars, rest) := by
  have many : Scan.many (Scan.either (Scan.one isBasic) escape) (chars ++ '"' :: rest) =
      some (chars, '"' :: rest) := by
    induction chars with
    | nil =>
      rw [Scan.many]
      rfl
    | cons head tail ih =>
      rw [List.all_cons, Bool.and_eq_true] at own
      have first : Scan.either (Scan.one isBasic) escape (head :: (tail ++ '"' :: rest)) =
          some (head, tail ++ '"' :: rest) := by
        change (Scan.one isBasic (head :: (tail ++ '"' :: rest)) <|> _) = _
        rw [Scan.one, if_pos own.1]
        rfl
      rw [List.cons_append, Scan.many, first]
      simp only [List.length_cons, Nat.lt_add_one, if_true, ih own.2, Option.map_some]
  exact (Scan.bind_some (Scan.char_some '"' _)).trans <| (Scan.bind_some many).trans <|
    Scan.bind_some (Scan.char_some '"' rest)

/-- The text of a string without escapes on one line. -/
theorem written_text {chars : List Char} (own : chars.all isBasic = true) :
    Written ('"' :: (chars ++ ['"'])) (.string (String.ofList chars)) := by
  refine ⟨⟨_, _, rfl, rfl⟩, fun rest => ?_⟩
  rw [List.cons_append, List.append_assoc, List.singleton_append]
  -- Three quotes would begin a string of many lines.
  have short : threeQuotes '"' ('"' :: (chars ++ '"' :: '\n' :: rest)) = none := by
    apply (Scan.bind_some (Scan.char_some '"' _)).trans
    cases chars with
    | nil =>
      exact (Scan.bind_some (Scan.char_some '"' _)).trans
        (Scan.bind_none (Scan.char_none (by decide) rest))
    | cons head tail =>
      rw [List.all_cons, Bool.and_eq_true] at own
      exact Scan.bind_none (Scan.char_none (isBasic_apart own.1) _)
  have single : anyString ('"' :: (chars ++ '"' :: '\n' :: rest)) =
      some (String.ofList chars, '\n' :: rest) := by
    have noLines : multiLineBasic ('"' :: (chars ++ '"' :: '\n' :: rest)) = none :=
      Scan.bind_none short
    rw [anyString, Scan.firstOf_none noLines]
    exact Scan.firstOf_some (basicString_plain own _)
  have plain : plainValue ('"' :: (chars ++ '"' :: '\n' :: rest)) =
      some (.string (String.ofList chars), '\n' :: rest) :=
    Scan.firstOf_some (Scan.map_some single)
  rw [nestingLimit, value, Scan.firstOf_none rfl, Scan.firstOf_none rfl]
  exact Scan.firstOf_some plain

/-! ## Lines -/

/-- What a line says is what the first of its kinds that is there says. -/
theorem line_eq {head : Char} (filled : isBlank head = false) (rest : List Char) :
    line (head :: rest) = Scan.firstOf [
      some <$> elementHeader,
      some <$> tableHeader,
      some <$> keyAndValue,
      (do let _ ← comment; lineEnd; return none),
      (do let _ ← newline; return none)] (head :: rest) :=
  Scan.bind_some (blanks_none filled rest)

/-- A line with nothing on it says nothing. -/
theorem takes_newline : Scan.Takes line ['\n'] none := fun _ => rfl

/-- A character of a comment. -/
def isComment (char : Char) : Bool := char == '\t' || (decide (' ' ≤ char) && char != '\x7f')

/-- A comment says nothing. -/
theorem takes_remark {text : List Char} (own : text.all isComment = true) :
    Scan.Takes line ('#' :: (text ++ ['\n'])) none := by
  intro rest
  rw [List.cons_append, List.append_assoc, List.singleton_append]
  have taken : comment ('#' :: (text ++ '\n' :: rest)) = some ((), '\n' :: rest) :=
    (Scan.bind_some (Scan.char_some '#' _)).trans
      (Scan.bind_some (Scan.span_append own (show isComment '\n' = false from rfl) rest))
  rw [line_eq rfl, Scan.firstOf_none rfl, Scan.firstOf_none rfl, Scan.firstOf_none rfl]
  exact Scan.firstOf_some ((Scan.bind_some taken).trans rfl)

/-- The header of a table is read off the front. -/
theorem takes_header {name : List Char} (bare : Bare name) :
    Scan.Takes line ('[' :: (name ++ [']', '\n'])) (some (.table [] (String.ofList name))) := by
  intro rest
  rw [List.cons_append, List.append_assoc]
  have table : tableHeader ('[' :: (name ++ ([']', '\n'] ++ rest))) =
      some (.table [] (String.ofList name), rest) :=
    (Scan.bind_some (Scan.char_some '[' _)).trans
      (Scan.bind_some (key_bare bare [] rfl rfl rfl (show ']' ≠ '.' by decide) ('\n' :: rest)))
  have single : elementHeader ('[' :: (name ++ ([']', '\n'] ++ rest))) = none := by
    obtain ⟨head, tail, rfl, own, -⟩ := bare.exists_cons
    have word : Scan.word ['[', '['] ('[' :: (head :: tail ++ ([']', '\n'] ++ rest))) = none :=
      (Scan.bind_some (Scan.char_some '[' _)).trans
        (Scan.bind_none (Scan.char_none (isBare_apart own).2.1 _))
    exact Scan.bind_none word
  rw [line_eq rfl, Scan.firstOf_none (Scan.map_none single)]
  exact Scan.firstOf_some (Scan.map_some table)

/-- A key with a value is read off the front. -/
theorem takes_pair {name text : List Char} {found : Value} (bare : Bare name)
    (written : Written text found) :
    Scan.Takes line (name ++ ([' ', '=', ' '] ++ (text ++ ['\n'])))
      (some (.pair [] (String.ofList name) found)) := by
  intro rest
  obtain ⟨⟨first, more, rfl, filled⟩, read⟩ := written
  simp only [List.append_assoc, List.singleton_append]
  have named : key (name ++ ([' ', '=', ' '] ++ (first :: more ++ '\n' :: rest))) =
      some (([], String.ofList name), '=' :: ' ' :: (first :: more ++ '\n' :: rest)) :=
    key_bare bare [' '] rfl rfl rfl (show '=' ≠ '.' by decide) _
  have spaced : blanks (' ' :: (first :: more ++ '\n' :: rest)) =
      some ([' '], first :: more ++ '\n' :: rest) :=
    Scan.span_append (show [' '].all isBlank = true from rfl) filled _
  have pair : keyAndValue (name ++ ([' ', '=', ' '] ++ (first :: more ++ '\n' :: rest))) =
      some (.pair [] (String.ofList name) found, rest) :=
    (Scan.bind_some named).trans <| (Scan.bind_some (Scan.char_some '=' _)).trans <|
      (Scan.bind_some spaced).trans <| Scan.bind_some (read rest)
  obtain ⟨head, tail, rfl, own, -⟩ := bare.exists_cons
  obtain ⟨notBlank, noBracket, -, -⟩ := isBare_apart own
  rw [List.cons_append] at pair ⊢
  have noElement : elementHeader (head :: (tail ++ ([' ', '=', ' '] ++
      (first :: more ++ '\n' :: rest)))) = none :=
    Scan.bind_none (Scan.bind_none (Scan.char_none noBracket _))
  have noTable : tableHeader (head :: (tail ++ ([' ', '=', ' '] ++
      (first :: more ++ '\n' :: rest)))) = none :=
    Scan.bind_none (Scan.char_none noBracket _)
  rw [line_eq notBlank, Scan.firstOf_none (Scan.map_none noElement),
    Scan.firstOf_none (Scan.map_none noTable)]
  exact Scan.firstOf_some (Scan.map_some pair)

/-! ## Documents -/

/-- A piece of a document and what it says. -/
abbrev Piece := List Char × Option Line

namespace Piece

/-- A line with nothing on it. -/
def empty : Piece := (['\n'], none)

/-- A line with a comment. -/
def remark (text : String) : Piece := ('#' :: (text.toList ++ ['\n']), none)

/-- The header of a table. -/
def header (name : String) : Piece :=
  ('[' :: (name.toList ++ [']', '\n']), some (.table [] name))

/-- A key with a truth value. -/
def flag (name : String) (value : Bool) : Piece :=
  (name.toList ++ ([' ', '=', ' '] ++
      ((if value then ['t', 'r', 'u', 'e'] else ['f', 'a', 'l', 's', 'e']) ++ ['\n'])),
    some (.pair [] name (.boolean value)))

/-- A key with a string. -/
def text (name value : String) : Piece :=
  (name.toList ++ ([' ', '=', ' '] ++ ('"' :: (value.toList ++ ['"']) ++ ['\n'])),
    some (.pair [] name (.string value)))

/-- A piece is not empty and is read as what it says. -/
def Lawful (piece : Piece) : Prop := piece.1 ≠ [] ∧ Scan.Takes line piece.1 piece.2

theorem Lawful.empty : Piece.empty.Lawful := ⟨List.cons_ne_nil _ _, takes_newline⟩

theorem Lawful.remark {text : List Char} (own : text.all isComment = true) :
    (Piece.remark (String.ofList text)).Lawful := by
  rw [Piece.remark, String.toList_ofList]
  exact ⟨List.cons_ne_nil _ _, takes_remark own⟩

theorem Lawful.header {name : List Char} (bare : Bare name) :
    (Piece.header (String.ofList name)).Lawful := by
  rw [Piece.header, String.toList_ofList]
  exact ⟨List.cons_ne_nil _ _, takes_header bare⟩

theorem Lawful.flag {name : List Char} (bare : Bare name) (value : Bool) :
    (Piece.flag (String.ofList name) value).Lawful := by
  rw [Piece.flag, String.toList_ofList]
  exact ⟨List.append_ne_nil_of_left_ne_nil bare.1 _, takes_pair bare (written_flag value)⟩

theorem Lawful.text {name : List Char} (bare : Bare name) {value : String}
    (own : value.toList.all isBasic = true) :
    (Piece.text (String.ofList name) value).Lawful := by
  have takes := takes_pair bare (written_text own)
  rw [String.ofList_toList] at takes
  rw [Piece.text, String.toList_ofList]
  exact ⟨List.append_ne_nil_of_left_ne_nil bare.1 _, takes⟩

/-- The text of a document of pieces. -/
def join (pieces : List Piece) : String := String.ofList (pieces.map (·.1)).flatten

theorem join_nil : join [] = "" := rfl

theorem join_cons (piece : Piece) (rest : List Piece) :
    join (piece :: rest) = String.ofList piece.1 ++ join rest := by
  rw [join, List.map_cons, List.flatten_cons, String.ofList_append, join]

/-! The text of a piece -/

theorem ofList_empty : String.ofList empty.1 = "\n" := rfl

theorem ofList_remark (text : String) : String.ofList (remark text).1 = "#" ++ text ++ "\n" := by
  apply String.toList_inj.1
  simp [remark]

theorem ofList_header (name : String) : String.ofList (header name).1 = "[" ++ name ++ "]\n" := by
  apply String.toList_inj.1
  simp [header]

theorem ofList_flag (name : String) (value : Bool) :
    String.ofList (flag name value).1 =
      name ++ " = " ++ (if value then "true" else "false") ++ "\n" := by
  apply String.toList_inj.1
  cases value <;> simp [flag]

theorem ofList_text (name value : String) :
    String.ofList (text name value).1 = name ++ " = \"" ++ value ++ "\"\n" := by
  apply String.toList_inj.1
  simp [text]

end Piece

/-- A document of pieces that are read as what they say is read piece by piece. -/
theorem lines_join {pieces : List Piece} (lawful : ∀ piece ∈ pieces, piece.Lawful)
    (plain : (pieces.map (·.1)).flatten.head? ≠ some '\uFEFF') :
    lines (Piece.join pieces).toList = some ((pieces.map (·.2)).filterMap id, []) := by
  rw [Piece.join, String.toList_ofList]
  have all := Scan.many_flatten lawful (show line [] = none from rfl)
  rw [List.append_nil] at all
  have unmarked : Scan.maybe (Scan.char '\uFEFF') (pieces.map (·.1)).flatten =
      some (none, (pieces.map (·.1)).flatten) := by
    cases chars : (pieces.map (·.1)).flatten with
    | nil => rfl
    | cons head tail =>
      rw [chars] at plain
      have other : head ≠ '\uFEFF' := fun same => plain (congrArg some same)
      exact Scan.maybe_none (Scan.char_none other tail)
  exact (Scan.bind_some unmarked).trans ((Scan.bind_some all).trans rfl)

/-! ## Comparing values -/

mutual

/-- Whether two values are the same. -/
def Value.same : Value → Value → Bool
  | .string text, .string other => text = other
  | .integer value, .integer other => value = other
  | .float value, .float other => value = other
  | .boolean value, .boolean other => value = other
  | .moment text, .moment other => text = other
  | .array items, .array others => sameItems items others
  | .table entries, .table others => sameEntries entries others
  | _, _ => false

/-- Whether two arrays have the same items. -/
def sameItems : List Value → List Value → Bool
  | [], [] => true
  | item :: rest, other :: others => item.same other && sameItems rest others
  | _, _ => false

/-- Whether two tables have the same entries. -/
def sameEntries : List (String × Value) → List (String × Value) → Bool
  | [], [] => true
  | (key, value) :: rest, (name, other) :: others =>
    key = name && value.same other && sameEntries rest others
  | _, _ => false

end

mutual

theorem Value.same_iff (value other : Value) : value.same other = true ↔ value = other := by
  match value with
  | .string text => cases other <;> simp [Value.same]
  | .integer value => cases other <;> simp [Value.same]
  | .float value => cases other <;> simp [Value.same]
  | .boolean value => cases other <;> simp [Value.same]
  | .moment text => cases other <;> simp [Value.same]
  | .array items => cases other <;> simp [Value.same, sameItems_iff items]
  | .table entries => cases other <;> simp [Value.same, sameEntries_iff entries]

theorem sameItems_iff (items others : List Value) :
    sameItems items others = true ↔ items = others := by
  match items with
  | [] => cases others <;> simp [sameItems]
  | item :: rest => cases others <;> simp [sameItems, item.same_iff, sameItems_iff rest]

theorem sameEntries_iff (entries others : List (String × Value)) :
    sameEntries entries others = true ↔ entries = others := by
  match entries with
  | [] => cases others <;> simp [sameEntries]
  | (key, value) :: rest =>
    cases others <;> simp [sameEntries, value.same_iff, sameEntries_iff rest, Prod.ext_iff]

end

instance : DecidableEq Value := fun value other => decidable_of_iff _ (value.same_iff other)

end Toml

end AstView

import AstView.Proofs.Document
import AstView.Proofs.Json.Grammar
import AstView.Proofs.Json.Reader
import AstView.Proofs.Sink

/-!
# JSON shows the document

What is written for a document is a JSON text by the rules of the grammar (`Value.derives`), in
either layout, and means the object of the document (`documentDatum`), which is given here from
the document itself. The grammar gives a text one meaning, so whoever reads the text by its rules
gets that object. From the object the document comes back, as far as texts of errors are UTF-8
(`documentDatum_injective`).
-/
namespace AstView.Json

open Grammar (Space Letter Letters Row Element Member Numeral Digits)

/-! ## The object of a document -/

/-- What JSON shows of the payload of a kind: numbers and truth values as they are, the text of an
error with U+FFFD for what is not UTF-8, bytes as hexadecimal digits, and nothing for a type without
a payload. -/
def payloadDatum : Kind → Option Datum
  | .uint64 value => some (.number value.toNat)
  | .arg index => some (.number index.toNat)
  | .param index => some (.number index.toNat)
  | .bool value => some (.bool value)
  | .error text => some (.string (Utf8.lossy text))
  | .bytes value => some (.string ("0x" ++ value.toHex))
  | .node _ => none

/-- The members that a value has in front of its children. -/
def kindMembers (kind : Kind) : List (String × Datum) :=
  ("kind", .string kind.tag.text) :: (payloadDatum kind).toList.map fun payload =>
    ("payload", payload)

mutual

/-- The object of a value: its kind, its payload if it has one, and its children. -/
def treeDatum : Tree → Datum
  | ⟨kind, children⟩ => .object (kindMembers kind ++ [("children", .array (forestDatum children))])

/-- The objects of some values in order. -/
def forestDatum : List Tree → List Datum
  | [] => []
  | tree :: rest => treeDatum tree :: forestDatum rest

end

/-- The object of an entry: its name, and its tree under a name that calls and streams have of
their own. -/
def entryDatum (tree : String) (entry : Entry) : Datum :=
  .object [("name", .string entry.name), (tree, treeDatum entry.tree)]

/-- The object of a document: its name, its calls and its streams. -/
def documentDatum (document : Document) (name : String) : Datum :=
  .object [
    ("name", .string name),
    ("calls", .array (document.calls.map (entryDatum "result"))),
    ("streams", .array (document.streams.map (entryDatum "filter")))]

mutual

/-- What a value that is written means. -/
def Value.datum : Value → Datum
  | .string text => .string text
  | .number value => .number value
  | .bool value => .bool value
  | .array items => .array (itemsDatum items)
  | .object members => .object (membersDatum members)

/-- What the items of an array mean. -/
def itemsDatum : List Value → List Datum
  | [] => []
  | item :: rest => item.datum :: itemsDatum rest

/-- What the members of an object mean. -/
def membersDatum : List (String × Value) → List (String × Datum)
  | [] => []
  | (name, value) :: rest => (name, value.datum) :: membersDatum rest

end

/-! ## Texts and numbers -/

/-- What is written for a character stands for that character. -/
theorem letter_quoteChar (char : Char) (rest : List Char) :
    Letter (quoteChar char ++ rest) char rest := by
  obtain ⟨letter, named, written⟩ | ⟨control, written⟩ | ⟨printed, quote, backslash, written⟩ :=
    quoteChar_cases char
  · rw [written]
    exact .escape named
  · have digits := codePoint?_control control
    rw [Bytes.hexPair] at digits
    rw [written, Bytes.hexPair]
    exact .code digits
  · rw [written]
    exact .plain printed quote backslash

/-- What is written for a text stands for that text. -/
theorem letters_quote (text rest : List Char) :
    Letters (text.flatMap quoteChar ++ '"' :: rest) text rest := by
  induction text with
  | nil => exact .close
  | cons char others ih =>
    rw [List.flatMap_cons, List.append_assoc]
    exact .more (letter_quoteChar char _) ih

/-- The digits of a number. -/
def decimalDigits (number : Nat) : Digits where
  chars := (toString number).toList
  filled := by
    rw [Nat.toString_eq_repr, Nat.toList_repr]
    exact Nat.toDigits_ne_nil
  decimal _ := Text.isDigit_decimal

/-- A number without sign, fraction and exponent. -/
def decimalNumeral (number : Nat) : Numeral where
  negative := false
  whole := decimalDigits number
  plain := by
    change Plain (toString number).toList
    rw [Nat.toString_eq_repr, Nat.toList_repr]
    exact plain_decimal number
  fraction := none
  exponent := none

/-- What is written for a number stands for that number. -/
theorem value_decimal (number : Nat) (rest : List Char) :
    Grammar.Value ((toString number).toList ++ rest) (.number number) rest := by
  have chars : (decimalNumeral number).chars = (toString number).toList := by
    rw [Numeral.chars, decimalNumeral, if_neg Bool.false_ne_true]
    exact List.append_nil _
  have value : (decimalNumeral number).value = number := by
    simp [Numeral.value, decimalNumeral, decimalDigits]
  have written : Grammar.Value ((decimalNumeral number).chars ++ rest)
      (.number (decimalNumeral number).value) rest := .number (decimalNumeral number) rfl
  rw [chars, value] at written
  exact written

/-! ## Layouts -/

/-- There may be no space. -/
theorem space_none (rest : List Char) : Space rest rest :=
  ⟨[], rfl, fun _ inside => absurd inside List.not_mem_nil⟩

/-- What begins an item is space. -/
theorem space_lineBreak (layout : Layout) (depth : Nat) (rest : List Char) :
    Space ((layout.lineBreak depth).toList ++ rest) rest :=
  ⟨(layout.lineBreak depth).toList, rfl, layout.blank_lineBreak depth⟩

/-- What begins the closing bracket is space. -/
theorem space_closing {α : Type} (layout : Layout) (depth : Nat) (content : List α)
    (rest : List Char) : Space (chars (closing layout depth content) ++ rest) rest := by
  unfold closing
  cases content with
  | nil => exact space_none rest
  | cons first others =>
    have single : chars [layout.lineBreak depth] = (layout.lineBreak depth).toList :=
      List.append_nil _
    simp only [List.isEmpty_cons, Bool.false_eq_true, if_false, single]
    exact space_lineBreak layout depth rest

/-- What stands behind the colon of a member is space. -/
theorem colon_space (layout : Layout) (rest : List Char) :
    ∃ after, layout.colon.toList ++ rest = ':' :: after ∧ Space after rest := by
  cases layout with
  | compact => exact ⟨rest, rfl, space_none rest⟩
  | pretty => exact ⟨' ' :: rest, rfl, [' '], rfl, List.forall_mem_singleton.2 rfl⟩

/-- A quoted text is its characters and the quotes around them. -/
theorem toList_quote (text : String) (rest : List Char) :
    (quote text).toList ++ rest = '"' :: (text.toList.flatMap quoteChar ++ '"' :: rest) := by
  simp [quote]

/-- A name, a colon and a value are written as a member. -/
theorem member_written (layout : Layout) (depth : Nat) (name : String)
    {written after rest : List Char} {datum : Datum} (value : Grammar.Value written datum after)
    (space : Space after rest) :
    Member ((layout.lineBreak depth).toList ++
      ((quote name).toList ++ (layout.colon.toList ++ written))) (name, datum) rest := by
  obtain ⟨front, colon, blank⟩ := colon_space layout written
  have letters := letters_quote name.toList (':' :: front)
  have member := Member.mk (space_lineBreak layout depth _) letters (space_none _)
    ⟨blank, value, space⟩
  rw [String.ofList_toList] at member
  rw [colon, toList_quote]
  exact member

mutual

/-- A value is written by the rules of the grammar. -/
theorem Value.derives (layout : Layout) (depth : Nat) (value : Value) (rest : List Char) :
    Grammar.Value (chars (value.tokens layout depth) ++ rest) value.datum rest := by
  match value with
  | .string text =>
    have whole : chars ((Value.string text).tokens layout depth) ++ rest =
        (quote text).toList ++ rest := by
      simp only [Value.tokens, chars_cons, List.append_assoc]
      rfl
    have written := Grammar.Value.string (letters_quote text.toList rest)
    rw [String.ofList_toList] at written
    rw [whole, toList_quote, Value.datum]
    exact written
  | .number value =>
    simp only [Value.tokens, chars_cons, List.append_assoc]
    exact value_decimal value rest
  | .bool true => exact .yes
  | .bool false => exact .no
  | .array [] =>
    exact .emptyArray (space_none _)
  | .array (item :: others) =>
    have whole : chars ((Value.array (item :: others)).tokens layout depth) ++ rest =
        '[' :: (chars (itemTokens layout (depth + 1) (item :: others)) ++
          (chars (closing layout depth (item :: others)) ++ ']' :: rest)) := by
      simp only [Value.tokens, chars_cons, chars_append, List.append_assoc]
      rfl
    rw [whole, Value.datum]
    exact .array (itemTokens_row layout (depth + 1) (item :: others) (List.cons_ne_nil _ _)
      (space_closing layout depth _ _))
  | .object [] =>
    exact .emptyObject (space_none _)
  | .object (member :: others) =>
    have whole : chars ((Value.object (member :: others)).tokens layout depth) ++ rest =
        '\x7b' :: (chars (memberTokens layout (depth + 1) (member :: others)) ++
          (chars (closing layout depth (member :: others)) ++ '\x7d' :: rest)) := by
      simp only [Value.tokens, chars_cons, chars_append, List.append_assoc]
      rfl
    rw [whole, Value.datum]
    exact .object (memberTokens_row layout (depth + 1) (member :: others) (List.cons_ne_nil _ _)
      (space_closing layout depth _ _))

/-- Items are written as a row. -/
theorem itemTokens_row (layout : Layout) (depth : Nat) (items : List Value) (filled : items ≠ [])
    {behind rest : List Char} (space : Space behind (']' :: rest)) :
    Row Element ']' (chars (itemTokens layout depth items) ++ behind) (itemsDatum items) rest := by
  match items with
  | [] => exact absurd rfl filled
  | [item] =>
    have whole : chars (itemTokens layout depth [item]) ++ behind =
        (layout.lineBreak depth).toList ++ (chars (item.tokens layout depth) ++ behind) := by
      simp only [itemTokens, separator, List.isEmpty_nil, if_true, chars_cons, chars_append,
        List.append_assoc]
      rfl
    rw [whole]
    exact .last ⟨space_lineBreak layout depth _, Value.derives layout depth item behind, space⟩
  | item :: next :: later =>
    have whole : chars (itemTokens layout depth (item :: next :: later)) ++ behind =
        (layout.lineBreak depth).toList ++ (chars (item.tokens layout depth) ++
          ',' :: (chars (itemTokens layout depth (next :: later)) ++ behind)) := by
      rw [itemTokens]
      simp only [separator, List.isEmpty_cons, Bool.false_eq_true, if_false, chars_cons,
        chars_append, List.append_assoc]
      rfl
    rw [whole]
    exact .more ⟨space_lineBreak layout depth _, Value.derives layout depth item _, space_none _⟩
      (itemTokens_row layout depth (next :: later) (List.cons_ne_nil _ _) space)

/-- Members are written as a row. -/
theorem memberTokens_row (layout : Layout) (depth : Nat) (members : List (String × Value))
    (filled : members ≠ []) {behind rest : List Char} (space : Space behind ('\x7d' :: rest)) :
    Row Member '\x7d' (chars (memberTokens layout depth members) ++ behind)
      (membersDatum members) rest := by
  match members with
  | [] => exact absurd rfl filled
  | [(name, value)] =>
    have whole : chars (memberTokens layout depth [(name, value)]) ++ behind =
        (layout.lineBreak depth).toList ++ ((quote name).toList ++ (layout.colon.toList ++
          (chars (value.tokens layout depth) ++ behind))) := by
      simp only [memberTokens, separator, List.isEmpty_nil, if_true, chars_cons, chars_append,
        List.append_assoc]
      rfl
    rw [whole]
    exact .last (member_written layout depth name (Value.derives layout depth value behind) space)
  | (name, value) :: next :: later =>
    have whole : chars (memberTokens layout depth ((name, value) :: next :: later)) ++ behind =
        (layout.lineBreak depth).toList ++ ((quote name).toList ++ (layout.colon.toList ++
          (chars (value.tokens layout depth) ++
            ',' :: (chars (memberTokens layout depth (next :: later)) ++ behind)))) := by
      rw [memberTokens]
      simp only [separator, List.isEmpty_cons, Bool.false_eq_true, if_false, chars_cons,
        chars_append, List.append_assoc]
      rfl
    rw [whole]
    exact .more
      (member_written layout depth name (Value.derives layout depth value _) (space_none _))
      (memberTokens_row layout depth (next :: later) (List.cons_ne_nil _ _) space)

end

/-! ## Documents -/

/-- The payload member of a value means the payload. -/
theorem membersDatum_payload (kind : Kind) (rest : List (String × Value)) :
    membersDatum (("kind", .string kind.tag.text) :: (payloadMember kind ++ rest)) =
      kindMembers kind ++ membersDatum rest := by
  cases kind <;> rfl

/-- The objects of values that are written mean the objects of the values. -/
theorem itemsDatum_ofForest (forest : List Tree) :
    itemsDatum (ofForest forest) = forestDatum forest := by
  induction forest using Tree.forest_induction with
  | nil => rfl
  | cons kind children rest below behind =>
    rw [ofForest, itemsDatum, ofTree, Value.datum, membersDatum_payload, membersDatum,
      Value.datum, below, behind]
    rfl

/-- The object of a value that is written means the object of the value. -/
theorem datum_ofTree (tree : Tree) : (ofTree tree).datum = treeDatum tree := by
  have single := itemsDatum_ofForest [tree]
  exact (List.cons.inj single).1

/-- The entries that are written mean the objects of the entries. -/
theorem itemsDatum_entries (role : Role) (entries : List Entry) :
    itemsDatum (entries.map (ofEntry role)) = entries.map (entryDatum (treeKey role)) := by
  induction entries with
  | nil => rfl
  | cons entry rest ih =>
    have first : (ofEntry role entry).datum = entryDatum (treeKey role) entry := by
      simp only [ofEntry, entryDatum, Value.datum, membersDatum, datum_ofTree]
    rw [List.map_cons, itemsDatum, first, ih, List.map_cons]

/-- The object that is written for a document means the object of the document. -/
theorem datum_ofDocument (document : Document) (name : String) :
    (ofDocument document name).datum = documentDatum document name := by
  have calls := itemsDatum_entries .call document.calls
  have streams := itemsDatum_entries .stream document.streams
  simp only [ofDocument, documentDatum, Value.datum, membersDatum, calls, streams]
  rfl

/-- The text of a document is a JSON text that means the object of the document. -/
theorem denotes_text (layout : Layout) (document : Document) (name : String) :
    Denotes ((ofDocument document name).text layout).toList (documentDatum document name) := by
  have written := (ofDocument document name).derives layout 0 []
  have text : chars ((ofDocument document name).tokens layout 0) ++ [] =
      ((ofDocument document name).text layout).toList := by
    rw [List.append_nil, Value.text, String.toList_join]
    rfl
  rw [text, datum_ofDocument] at written
  exact ⟨space_none _, written, space_none _⟩

/-! ## What the object keeps of a document -/

/-- Reads the kind with a type and a payload. -/
def kindOf? (tag : Tag) : Option Datum → Option Kind
  | none => some (.node tag)
  | some (.number value) =>
    match tag with
    | .known .uint64 => some (.uint64 (UInt64.ofNat value.num.toNat))
    | .known .arg => some (.arg (UInt64.ofNat value.num.toNat))
    | .known .param => some (.param (UInt64.ofNat value.num.toNat))
    | _ => none
  | some (.bool value) => some (.bool value)
  | some (.string text) =>
    match tag with
    | .known .error => some (.error (Utf8.encode text))
    | _ => (Bytes.ofHex (text.toList.drop 2)).map .bytes
  | _ => none

/-- A kind is read back from its type and its payload, as far as its text is UTF-8. -/
theorem kindOf?_payloadDatum (kind : Kind) :
    kindOf? kind.tag (payloadDatum kind) = some kind.lossy := by
  have number (value : UInt64) :
      UInt64.ofNat ((value.toNat : ℕ) : ℚ).num.toNat = value := by
    rw [Rat.num_natCast, Int.toNat_natCast, UInt64.ofNat_toNat]
  cases kind with
  | uint64 value => simp only [Kind.tag, payloadDatum, kindOf?, number, Kind.lossy]
  | arg index => simp only [Kind.tag, payloadDatum, kindOf?, number, Kind.lossy]
  | param index => simp only [Kind.tag, payloadDatum, kindOf?, number, Kind.lossy]
  | bool value => rfl
  | error text => rfl
  | bytes value =>
    have digits : ("0x" ++ value.toHex).toList.drop 2 = value.toHex.toList := by
      rw [String.toList_append]
      rfl
    simp only [Kind.tag, payloadDatum, kindOf?, digits, Bytes.ofHex_toHex, Option.map_some,
      Kind.lossy]
  | node tag => rfl

/-- The members of a value show its kind, as far as its text is UTF-8. -/
theorem lossy_eq_of_kindMembers {kind other : Kind} (same : kindMembers kind = kindMembers other) :
    kind.lossy = other.lossy := by
  simp only [kindMembers, List.cons.injEq, Prod.mk.injEq, Datum.string.injEq, true_and] at same
  obtain ⟨texts, members⟩ := same
  have tags : kind.tag = other.tag := by
    have read := Tag.read_text kind.tag
    rw [texts, Tag.read_text] at read
    exact (Option.some.inj read).symm
  have payloads : payloadDatum kind = payloadDatum other := by
    have each : Function.Injective fun payload : Datum => ("payload", payload) :=
      fun _ _ equal => (Prod.mk.inj equal).2
    have heads := congrArg List.head? members
    simp only [List.head?_map, Option.head?_toList] at heads
    exact Option.map_injective each heads
  have read := kindOf?_payloadDatum kind
  rw [tags, payloads, kindOf?_payloadDatum] at read
  exact (Option.some.inj read).symm

/-- The objects of values show the values, as far as their texts are UTF-8. -/
theorem lossy_eq_of_forestDatum {forest others : List Tree}
    (same : forestDatum forest = forestDatum others) :
    Tree.forestLossy forest = Tree.forestLossy others := by
  induction forest using Tree.forest_induction generalizing others with
  | nil =>
    cases others with
    | nil => rfl
    | cons => cases same
  | cons kind children rest below behind =>
    match others with
    | [] => cases same
    | ⟨otherKind, otherChildren⟩ :: later =>
      simp only [forestDatum, treeDatum, List.cons.injEq, Datum.object.injEq] at same
      obtain ⟨object, after⟩ := same
      obtain ⟨members, last⟩ := List.append_inj' object rfl
      simp only [List.cons.injEq, Prod.mk.injEq, Datum.array.injEq, true_and, and_true] at last
      simp only [Tree.forestLossy, Tree.lossy, lossy_eq_of_kindMembers members, below last,
        behind after]

/-- The object of a value shows the value. -/
theorem lossy_eq_of_treeDatum {tree other : Tree} (same : treeDatum tree = treeDatum other) :
    tree.lossy = other.lossy := by
  have single : forestDatum [tree] = forestDatum [other] := by
    simp only [forestDatum, same]
  exact (List.cons.inj (lossy_eq_of_forestDatum single)).1

/-- The objects of entries show the entries. -/
theorem lossy_eq_of_entryDatum {tree : String} {entries others : List Entry}
    (same : entries.map (entryDatum tree) = others.map (entryDatum tree)) :
    entries.map Entry.lossy = others.map Entry.lossy := by
  induction entries generalizing others with
  | nil =>
    cases others with
    | nil => rfl
    | cons => cases same
  | cons entry rest ih =>
    cases others with
    | nil => cases same
    | cons other later =>
      simp only [List.map_cons, List.cons.injEq, entryDatum, Datum.object.injEq, Prod.mk.injEq,
        Datum.string.injEq, true_and, and_true] at same
      obtain ⟨⟨name, value⟩, after⟩ := same
      simp only [List.map_cons, Entry.lossy, name, lossy_eq_of_treeDatum value, ih after]

/-- The object of a document shows its name and the document, as far as texts of errors are
UTF-8. -/
theorem lossy_eq_of_documentDatum {document other : Document} {name otherName : String}
    (same : documentDatum document name = documentDatum other otherName) :
    name = otherName ∧ document.lossy = other.lossy := by
  simp only [documentDatum, Datum.object.injEq, List.cons.injEq, Prod.mk.injEq,
    Datum.string.injEq, Datum.array.injEq, true_and, and_true] at same
  obtain ⟨names, calls, streams⟩ := same
  refine ⟨names, ?_⟩
  rw [Document.lossy, lossy_eq_of_entryDatum calls, lossy_eq_of_entryDatum streams]
  rfl

/-- Writing a document gives a JSON text and a newline, in either layout. By the rules of the
grammar the text means the object of the document and nothing else, and two documents with names
that are written alike, in whichever layouts, are the same as far as texts of errors are UTF-8. -/
theorem render_faithful (layout : Layout) (document : Document) (name : String) :
    ∃ text : String,
      (Sink.memory.put (render layout document name)).2 = .ok () ∧
      (Sink.memory.put (render layout document name)).1.written = Utf8.encode (text ++ "\n") ∧
      (∀ datum, Denotes text.toList datum ↔ datum = documentDatum document name) ∧
      ∀ (otherLayout : Layout) (other : Document) (otherName : String),
        (render otherLayout other otherName).bytes = (render layout document name).bytes →
          otherName = name ∧ other.lossy = document.lossy := by
  obtain ⟨written, success⟩ := Sink.put_memory (render layout document name)
  have means := denotes_text layout document name
  refine ⟨(ofDocument document name).text layout, success, ?_, ?_, ?_⟩
  · rw [written, bytes_render, documentText]
  · exact fun datum => ⟨fun read => read.unique means, fun same => same ▸ means⟩
  · intro otherLayout other otherName same
    rw [bytes_render, bytes_render] at same
    have texts := Utf8.encode_injective same
    rw [documentText, documentText] at texts
    have equal := (String.append_left_inj _).1 texts
    have again := denotes_text otherLayout other otherName
    rw [equal] at again
    exact lossy_eq_of_documentDatum (again.unique means)

/-- A call whose name has a quote, a control character, a line separator and a character of two
surrogates, and whose result is an error of one byte. -/
def outlandish (byte : UInt8) : Document where
  calls := [⟨"a\"\x01\u2028😀", ⟨.error [byte], [⟨.uint64 0xFFFFFFFFFFFFFFFF, []⟩]⟩⟩]

theorem render_faithful_outlandish :
    (render .compact (outlandish 0xFF) "\\").bytes =
        (render .compact (outlandish 0xFE) "\\").bytes ∧
      (outlandish 0xFF).lossy = (outlandish 0xFE).lossy ∧
      ∃ text : String,
        (render .pretty (outlandish 0xFF) "\\").bytes = Utf8.encode (text ++ "\n") ∧
        Denotes text.toList (documentDatum (outlandish 0xFE) "\\") := by
  have alike : (render .compact (outlandish 0xFF) "\\").bytes =
      (render .compact (outlandish 0xFE) "\\").bytes := by decide +kernel
  obtain ⟨-, -, -, -, same⟩ := render_faithful .compact (outlandish 0xFE) "\\"
  obtain ⟨text, -, written, means, -⟩ := render_faithful .pretty (outlandish 0xFF) "\\"
  have object : documentDatum (outlandish 0xFE) "\\" = documentDatum (outlandish 0xFF) "\\" := rfl
  refine ⟨alike, (same .compact _ _ alike).2, text, ?_, (means _).2 object⟩
  rw [← (Sink.put_memory _).1, written]

end AstView.Json

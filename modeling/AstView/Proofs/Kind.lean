import AstView.Kind
import AstView.Proofs.Text
import AstView.Proofs.Utf8
import Mathlib.Data.List.TakeWhile

/-!
# Reading labels of kinds

A label shows all of its kind but the bytes of an error that are not UTF-8. So a label can be read
back: what stands before the first parenthesis is the name of the type, what stands between that
parenthesis and the last character is the payload, and a label without a parenthesis is a type
without payload. The text of an error may hold parentheses itself, and names of types do not.

What is read back is all that a label says, so kinds with one label are the same but for such bytes
(`label_identifies`). And a label has characters other than those of names, numbers and parentheses
only if it is that of an error (`mem_label_iff`).
-/
namespace AstView

namespace Bytes

/-- The number of a lowercase hexadecimal digit. -/
def digit? (digit : Char) : Option Nat := (List.range 16).find? fun value => hexDigit value = digit

/-- Reads two digits as a byte, and so on. -/
def ofHex : List Char → Option Bytes
  | [] => some []
  | [_] => none
  | high :: low :: rest => do return byte (16 * (← digit? high) + (← digit? low)) :: (← ofHex rest)

/-- What all sixteen digits have, the two digits of a byte have. -/
theorem forall_mem_hexPair {holds : Char → Prop} (all : ∀ value : Fin 16, holds (hexDigit value))
    (next : UInt8) : ∀ digit ∈ hexPair next, holds digit := by
  have bound := next.toNat_lt
  have high := all ⟨next.toNat / 16, by omega⟩
  have low := all ⟨next.toNat % 16, by omega⟩
  exact List.forall_mem_cons.2 ⟨high, List.forall_mem_singleton.2 low⟩

/-- Each of the sixteen digits is read as its number. -/
theorem digit?_hexDigit {value : Nat} (small : value < 16) :
    digit? (hexDigit value) = some value := by
  have all : ∀ value : Fin 16, digit? (hexDigit value) = some value.val := by decide
  exact all ⟨value, small⟩

/-- Bytes are read back from their digits. -/
theorem ofHex_toHex (bytes : Bytes) : ofHex bytes.toHex.toList = some bytes := by
  rw [toHex, String.toList_ofList]
  induction bytes with
  | nil => rfl
  | cons next rest ih =>
    have bound := next.toNat_lt
    have high := digit?_hexDigit (show next.toNat / 16 < 16 by omega)
    have low := digit?_hexDigit (show next.toNat % 16 < 16 by omega)
    have whole : byte (16 * (next.toNat / 16) + next.toNat % 16) = next := by
      rw [Nat.div_add_mod, Utf8.byte_toNat]
    simp only [List.flatMap_cons, hexPair, List.cons_append, List.nil_append, ofHex, high, low, ih,
      Option.bind_eq_bind, Option.bind_some, Option.pure_def, whole]

end Bytes

/-! ## Types -/

namespace Tag

/-- Reads a type out of its name or its number. -/
def read (name : String) : Option Tag :=
  match NodeType.ofName? name with
  | some type => some (.known type)
  | none => (Text.integer? name.toList).map fun code => .unknown (Int32.ofInt code)

/-- The decimal form of a number has digits and perhaps a minus sign. -/
theorem decimal_chars {number : Int} {char : Char} (inside : char ∈ (toString number).toList) :
    char.isDigit ∨ char = '-' := by
  obtain ⟨size, -, digits⟩ | ⟨size, -, digits⟩ := Text.decimal_cases number
  · rw [digits] at inside
    exact Or.inl (Text.isDigit_decimal inside)
  · rw [digits, List.mem_cons] at inside
    obtain minus | digit := inside
    · exact Or.inr minus
    · exact Or.inl (Text.isDigit_decimal digit)

/-- The name of a type begins with a letter. -/
theorem name_begins (type : NodeType) :
    ∃ char ∈ type.name.toList, char.isDigit = false ∧ char ≠ '-' := by
  cases type <;> exact ⟨_, List.mem_cons_self, by decide⟩

/-- No number is the name of a type. -/
theorem ofName?_decimal (number : Int) : NodeType.ofName? (toString number) = none := by
  rw [Option.eq_none_iff_forall_ne_some]
  intro type found
  have same : type.name = toString number := by simpa using List.find?_some found
  obtain ⟨char, inside, letter, positive⟩ := name_begins type
  rw [same] at inside
  obtain digit | minus := decimal_chars inside
  · rw [letter] at digit
    cases digit
  · exact positive minus

/-- A type is read back from its text. -/
theorem read_text (tag : Tag) : read tag.text = some tag := by
  cases tag with
  | known type => simp only [read, text, NodeType.ofName?_name]
  | unknown code =>
    simp only [read, text, ofName?_decimal, Text.integer?_decimal, Option.map_some,
      Int32.ofInt_toInt]

/-- The name of a type has letters, digits and underscores. -/
theorem all_name (type : NodeType) :
    type.name.toList.all (fun char => char.isAlphanum || char = '_') = true := by
  cases type <;> decide +kernel

/-- A character other than those and a minus sign is in the text of no type. -/
theorem not_mem_text {char : Char} (other : (char.isAlphanum || char = '_' || char = '-') = false)
    (tag : Tag) : char ∉ tag.text.toList := by
  rw [Bool.or_eq_false_iff] at other
  intro inside
  cases tag with
  | known type =>
    have word := List.all_eq_true.1 (all_name type) char inside
    rw [other.1] at word
    cases word
  | unknown code =>
    obtain digit | rfl := decimal_chars inside
    · have letter := other.1
      rw [Char.isAlphanum, digit, Bool.or_true, Bool.true_or] at letter
      cases letter
    · cases other.2

end Tag

/-! ## Kinds -/

namespace Kind

/-- Reads the payload of a type out of its text. -/
def readPayload (type : NodeType) (text : String) : Option Kind :=
  match type with
  | .uint64 => (Text.number? text.toList).map fun number => .uint64 (UInt64.ofNat number)
  | .arg => (Text.number? text.toList).map fun number => .arg (UInt64.ofNat number)
  | .param => (Text.number? text.toList).map fun number => .param (UInt64.ofNat number)
  | .bool =>
    if text = "true" then some (.bool true)
    else if text = "false" then some (.bool false)
    else none
  | .error => some (.error (Utf8.encode text))
  | .bytes =>
    match text.toList with
    | '0' :: 'x' :: digits => (Bytes.ofHex digits).map .bytes
    | _ => none
  | _ => none

/-- Reads a kind out of its label. -/
def read (label : String) : Option Kind :=
  let name := label.toList.takeWhile (· != '(')
  match label.toList.drop name.length with
  | [] => (Tag.read label).map .node
  | _ :: inside =>
    if inside.getLast? = some ')' then do
      readPayload (← NodeType.ofName? (String.ofList name)) (String.ofList inside.dropLast)
    else none

/-- What a label shows of a kind: of the text of an error the UTF-8, with U+FFFD in place of
everything else. -/
def lossy : Kind → Kind
  | error text => error (Utf8.encode (Utf8.lossy text))
  | kind => kind

/-- An error of UTF-8 is shown as it is. -/
theorem lossy_error_encode (text : String) :
    lossy (.error (Utf8.encode text)) = .error (Utf8.encode text) := by
  rw [lossy, Utf8.lossy_encode]

/-- A payload is read back from its text and the type of its kind. -/
theorem readPayload_payloadText {kind : Kind} {text : String}
    (shown : kind.payloadText = some text) :
    ∃ type, kind.tag = .known type ∧ readPayload type text = some kind.lossy := by
  have number (value : UInt64) : Text.number? (numberText value).toList = some value.toNat :=
    Text.number?_decimal value.toNat
  cases kind with
  | uint64 value | arg value | param value =>
    cases shown
    exact ⟨_, rfl, by simp only [readPayload, number, Option.map_some, UInt64.ofNat_toNat, lossy]⟩
  | bool value =>
    cases shown
    refine ⟨.bool, rfl, ?_⟩
    cases value <;> rfl
  | error bytes =>
    cases shown
    exact ⟨.error, rfl, rfl⟩
  | bytes value =>
    cases shown
    have digits : (bytesText value).toList = '0' :: 'x' :: value.toHex.toList :=
      String.toList_append
    exact ⟨.bytes, rfl, by simp only [readPayload, digits, Bytes.ofHex_toHex, Option.map_some,
      lossy]⟩
  | node tag => cases shown

/-- A kind is read back from its label, as far as the label shows it. -/
theorem read_label (kind : Kind) : read kind.label = some kind.lossy := by
  have plain : ∀ char ∈ kind.tag.text.toList, (char != '(') = true := by
    intro char inside
    rw [bne_iff_ne]
    rintro rfl
    exact Tag.not_mem_text rfl kind.tag inside
  cases shown : kind.payloadText with
  | none =>
    have whole : kind.label = kind.tag.text := by simp only [label, shown]
    have same : .node kind.tag = kind.lossy := by
      cases kind with
      | node tag => rfl
      | _ => cases shown
    have name : kind.tag.text.toList.takeWhile (· != '(') = kind.tag.text.toList :=
      List.takeWhile_eq_self_iff.2 plain
    simp only [read, whole, name, List.drop_length, Tag.read_text, Option.map_some, same]
  | some payload =>
    obtain ⟨type, known, inner⟩ := readPayload_payloadText shown
    have whole : kind.label.toList = kind.tag.text.toList ++ '(' :: (payload.toList ++ [')']) := by
      simp only [label, shown, String.toList_append, List.append_assoc]
      rfl
    have name : kind.label.toList.takeWhile (· != '(') = type.name.toList := by
      rw [whole, List.takeWhile_append_of_pos plain, known]
      exact List.append_nil _
    have rest : kind.label.toList.drop type.name.toList.length =
        '(' :: (payload.toList ++ [')']) := by
      rw [whole, known]
      exact List.drop_left
    simp only [read, name, rest, List.getLast?_concat, if_true, String.ofList_toList,
      NodeType.ofName?_name, List.dropLast_concat, Option.bind_eq_bind, Option.bind_some, inner]

/-! ## Kinds with one label -/

/-- What a label shows of a kind has that label itself. -/
theorem label_lossy (kind : Kind) : kind.lossy.label = kind.label := by
  cases kind with
  | error bytes =>
    have text : payloadText (.error (Utf8.encode (Utf8.lossy bytes))) =
        payloadText (.error bytes) := congrArg some (Utf8.lossy_encode _)
    simp only [lossy, label, text, tag]
  | _ => rfl

/-- Kinds have one label exactly if it shows the same of them. -/
theorem label_eq_iff_lossy {kind other : Kind} :
    kind.label = other.label ↔ kind.lossy = other.lossy := by
  constructor
  · intro same
    apply Option.some.inj
    rw [← read_label, ← read_label, same]
  · intro same
    rw [← label_lossy kind, ← label_lossy other, same]

/-- Nothing is lost of kinds but the bytes of errors that are no text. -/
theorem lossy_eq_iff {kind other : Kind} :
    kind.lossy = other.lossy ↔ kind = other ∨
      ∃ bytes more, kind = .error bytes ∧ other = .error more ∧
        Utf8.lossy bytes = Utf8.lossy more := by
  constructor
  · intro same
    cases kind with
    | error bytes =>
      cases other with
      | error more =>
        have texts := Utf8.encode_injective (Kind.error.inj same)
        exact .inr ⟨bytes, more, rfl, rfl, texts⟩
      | _ => cases same
    | _ =>
      cases other with
      | error more => cases same
      | _ => exact .inl same
  · rintro (rfl | ⟨bytes, more, rfl, rfl, same⟩)
    · rfl
    · rw [lossy, lossy, same]

/-- A kind is all shown exactly if it is no error or the bytes of the error are a text. -/
theorem lossy_eq_self_iff {kind : Kind} :
    kind.lossy = kind ↔ ∀ bytes, kind = .error bytes → ∃ text, Utf8.decode bytes = .ok text := by
  cases kind with
  | error bytes =>
    constructor
    · rintro same _ ⟨⟩
      exact ⟨Utf8.lossy bytes, Utf8.decode_eq_ok_iff.2 (Kind.error.inj same).symm⟩
    · intro valid
      obtain ⟨text, read⟩ := valid bytes rfl
      rw [Utf8.decode_eq_ok_iff.1 read, lossy_error_encode]
  | _ => exact ⟨fun _ => nofun, fun _ => rfl⟩

/-- Labels tell kinds apart. Two kinds have one label exactly if they are the same or both are
errors whose bytes are shown as the same text, so no text of an error gives the label of another
kind. A kind is read back from its label exactly if it is no error or the bytes of the error are a
text. -/
theorem label_identifies (kind other : Kind) :
    (kind.label = other.label ↔ kind = other ∨
      ∃ bytes more, kind = .error bytes ∧ other = .error more ∧
        Utf8.lossy bytes = Utf8.lossy more) ∧
      (∀ bytes, kind.label = (Kind.error bytes).label ↔
        ∃ more, kind = .error more ∧ Utf8.lossy more = Utf8.lossy bytes) ∧
      (read kind.label = some kind ↔
        ∀ bytes, kind = .error bytes → ∃ text, Utf8.decode bytes = .ok text) := by
  refine ⟨label_eq_iff_lossy.trans lossy_eq_iff, ?_, ?_⟩
  · intro bytes
    rw [label_eq_iff_lossy, lossy_eq_iff]
    constructor
    · rintro (rfl | ⟨more, _, rfl, ⟨⟩, same⟩)
      · exact ⟨bytes, rfl, rfl⟩
      · exact ⟨more, rfl, same⟩
    · rintro ⟨more, rfl, same⟩
      exact .inr ⟨more, bytes, rfl, rfl, same⟩
  · rw [read_label, Option.some_inj, lossy_eq_self_iff]

/-- Errors that are no text may share a label. -/
example : Kind.error [0x6F, 0xFF] ≠ .error [0x6F, 0xFE] ∧
    (Kind.error [0x6F, 0xFF]).label = (Kind.error [0x6F, 0xFE]).label := by decide

/-! ## Characters of labels -/

/-- The digits of bytes are letters and digits. -/
theorem isAlphanum_toHex {bytes : Bytes} {char : Char} (inside : char ∈ bytes.toHex.toList) :
    char.isAlphanum := by
  rw [Bytes.toHex, String.toList_ofList, List.mem_flatMap] at inside
  obtain ⟨next, -, pair⟩ := inside
  have digits : ∀ digit ∈ Bytes.hexPair next, digit.isAlphanum :=
    Bytes.forall_mem_hexPair (by decide) next
  exact digits char pair

/-- A payload has letters and digits only, unless it is the text of an error. -/
theorem payloadText_cases {kind : Kind} {payload : String}
    (shown : kind.payloadText = some payload) :
    (∃ bytes, kind = .error bytes ∧ payload = Utf8.lossy bytes) ∨
      ∀ char ∈ payload.toList, char.isAlphanum := by
  have number (value : UInt64) : ∀ char ∈ (numberText value).toList, char.isAlphanum := by
    intro char inside
    rw [Char.isAlphanum, Text.isDigit_decimal inside, Bool.or_true]
  have flag (value : Bool) : (flagText value).toList.all Char.isAlphanum = true := by
    cases value <;> rfl
  have marker : "0x".toList.all Char.isAlphanum = true := rfl
  cases kind with
  | uint64 value | arg value | param value =>
    cases shown
    exact .inr (number value)
  | bool value =>
    cases shown
    exact .inr (List.all_eq_true.1 (flag value))
  | error bytes =>
    cases shown
    exact .inl ⟨bytes, rfl, rfl⟩
  | bytes value =>
    cases shown
    right
    intro char inside
    rw [bytesText, String.toList_append, List.mem_append] at inside
    obtain front | digit := inside
    · exact List.all_eq_true.1 marker char front
    · exact isAlphanum_toHex digit
  | node tag => cases shown

/-- A character that is in no name, no number and no parenthesis is in a label only as a part of the
text of an error. -/
theorem mem_label_iff {char : Char}
    (other : (char.isAlphanum || char = '_' || char = '-' || char = '(' || char = ')') = false)
    {kind : Kind} :
    char ∈ kind.label.toList ↔ ∃ bytes, kind = .error bytes ∧ char ∈ (Utf8.lossy bytes).toList := by
  simp only [Bool.or_eq_false_iff, decide_eq_false_iff_not] at other
  obtain ⟨⟨⟨⟨letter, underscore⟩, minus⟩, opening⟩, closing⟩ := other
  have name : char ∉ kind.tag.text.toList :=
    Tag.not_mem_text (by simp [letter, underscore, minus]) kind.tag
  cases shown : kind.payloadText with
  | none =>
    have noError : ∀ bytes, kind ≠ .error bytes := by
      rintro bytes rfl
      cases shown
    simp [label, shown, name, noError]
  | some payload =>
    have whole : char ∈ kind.label.toList ↔ char ∈ payload.toList := by
      simp [label, shown, name, opening, closing]
    rw [whole]
    obtain ⟨bytes, rfl, rfl⟩ | plain := payloadText_cases shown
    · simp
    · constructor
      · intro inside
        have alphanum := plain char inside
        rw [letter] at alphanum
        cases alphanum
      · rintro ⟨bytes, rfl, inside⟩
        cases shown
        exact inside

/-! ## Lines -/

/-- A kind is shown on one line unless it is an error with a newline in its text. -/
def OneLine : Kind → Prop
  | error text => '\n' ∉ (Utf8.lossy text).toList
  | _ => True

instance : DecidablePred OneLine
  | error text => inferInstanceAs (Decidable ('\n' ∉ (Utf8.lossy text).toList))
  | uint64 _ | arg _ | param _ | bool _ | bytes _ | node _ => inferInstanceAs (Decidable True)

/-- The label of a kind of one line has no newline. -/
theorem newline_not_mem_label {kind : Kind} (oneLine : kind.OneLine) :
    '\n' ∉ kind.label.toList := by
  rw [mem_label_iff rfl]
  rintro ⟨bytes, rfl, inside⟩
  exact oneLine inside

end Kind

end AstView

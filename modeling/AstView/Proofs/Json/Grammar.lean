import AstView.Proofs.Json.Token
import Mathlib.Algebra.Field.Rat
import Mathlib.Tactic.NormNum

/-!
# The grammar of JSON

The grammar of RFC 8259, whole: numbers with a sign, a fraction and an exponent, `null`, every
escape of a text, and space around every value and mark. Each rule says what stands at the front
of some characters, what it means, and what it leaves. A number means a rational number, so `1`,
`1.0` and `10e-1` mean the same. Half of a surrogate pair by itself means no text.

A JSON text has one meaning at most (`Denotes.unique`). A rule is read off its first character,
a number ends where no part of one goes on, and space ends where something else begins.
-/
namespace AstView.Json

/-- What a JSON text means. The members of an object keep their order. -/
inductive Datum where
  /-- Nothing. -/
  | null
  /-- A truth value. -/
  | bool (value : Bool)
  /-- A number. -/
  | number (value : ℚ)
  /-- A text. -/
  | string (text : String)
  /-- Values in order. -/
  | array (items : List Datum)
  /-- Names with a value each, in order. -/
  | object (members : List (String × Datum))

namespace Grammar

/-! ## Numbers -/

/-- One or more decimal digits. -/
structure Digits where
  /-- The digits. -/
  chars : List Char
  /-- There are some. -/
  filled : chars ≠ []
  /-- There is nothing else. -/
  decimal : ∀ char ∈ chars, char.isDigit = true

/-- The sign in front of an exponent. -/
inductive Sign where
  /-- The exponent counts up. -/
  | plus
  /-- The exponent counts down. -/
  | minus

/-- The character of a sign. -/
def Sign.char : Sign → Char
  | plus => '+'
  | minus => '-'

/-- A power of ten. -/
structure Exponent where
  /-- The letter in front. -/
  letter : Char
  /-- It is an E of either case. -/
  marked : letter = 'e' ∨ letter = 'E'
  /-- The sign, if there is one. -/
  sign : Option Sign
  /-- The digits. -/
  digits : Digits

/-- The characters of an exponent. -/
def Exponent.chars (exponent : Exponent) : List Char :=
  exponent.letter :: ((exponent.sign.map Sign.char).toList ++ exponent.digits.chars)

/-- The number of an exponent. -/
def Exponent.value (exponent : Exponent) : ℤ :=
  match exponent.sign with
  | some .minus => -(Nat.ofDigitChars 10 exponent.digits.chars 0 : ℕ)
  | _ => (Nat.ofDigitChars 10 exponent.digits.chars 0 : ℕ)

/-- A number as it is written. -/
structure Numeral where
  /-- Whether there is a minus sign. -/
  negative : Bool
  /-- The digits before the point. -/
  whole : Digits
  /-- None of these is a superfluous zero. -/
  plain : Plain whole.chars
  /-- The digits after the point, if there is one. -/
  fraction : Option Digits
  /-- The exponent, if there is one. -/
  exponent : Option Exponent

namespace Numeral

/-- The characters of a fraction. -/
def fractionChars : Option Digits → List Char
  | none => []
  | some digits => '.' :: digits.chars

/-- The characters of an exponent that may be missing. -/
def exponentChars : Option Exponent → List Char
  | none => []
  | some exponent => exponent.chars

/-- The characters of a number. -/
def chars (numeral : Numeral) : List Char :=
  (if numeral.negative then ['-'] else []) ++ (numeral.whole.chars ++
    (fractionChars numeral.fraction ++ exponentChars numeral.exponent))

/-- The number: its digits without the point, and the power of ten that puts the point back. -/
def value (numeral : Numeral) : ℚ :=
  let places := ((numeral.fraction.map Digits.chars).getD [])
  let exponent : ℤ := (numeral.exponent.map Exponent.value).getD 0
  (if numeral.negative then -1 else 1) *
    (Nat.ofDigitChars 10 (numeral.whole.chars ++ places) 0 : ℕ) * 10 ^ (exponent - places.length)

end Numeral

/-! ## Texts -/

/-- The number of half of a surrogate pair that comes first. -/
def High (code : Nat) : Prop := 0xD800 ≤ code ∧ code < 0xDC00

/-- The number of half of a surrogate pair that comes second. -/
def Low (code : Nat) : Prop := 0xDC00 ≤ code ∧ code < 0xE000

/-- A character of a text. -/
inductive Letter : List Char → Char → List Char → Prop
  /-- A character that stands for itself. -/
  | plain {char : Char} {rest : List Char} (printed : 0x20 ≤ char.toNat) (inside : char ≠ '"')
      (solid : char ≠ '\\') : Letter (char :: rest) char rest
  /-- A letter behind a backslash. -/
  | escape {letter char : Char} {rest : List Char} (named : escaped? letter = some char) :
      Letter ('\\' :: letter :: rest) char rest
  /-- The number of a character in four hexadecimal digits. -/
  | code {first second third fourth char : Char} {rest : List Char}
      (point : codePoint? [first, second, third, fourth] = some char) :
      Letter ('\\' :: 'u' :: first :: second :: third :: fourth :: rest) char rest
  /-- The two halves of a surrogate pair. -/
  | pair {first second third fourth fifth sixth seventh eighth : Char} {rest : List Char}
      {high low : Nat} (upper : hexNumber? [first, second, third, fourth] = some high)
      (lower : hexNumber? [fifth, sixth, seventh, eighth] = some low) (above : High high)
      (below : Low low) :
      Letter ('\\' :: 'u' :: first :: second :: third :: fourth ::
          '\\' :: 'u' :: fifth :: sixth :: seventh :: eighth :: rest)
        (Char.ofNat (0x10000 + (high - 0xD800) * 0x400 + (low - 0xDC00))) rest

/-- The characters of a text up to the quote that closes it. -/
inductive Letters : List Char → List Char → List Char → Prop
  /-- The quote. -/
  | close {rest : List Char} : Letters ('"' :: rest) [] rest
  /-- A character in front of others. -/
  | more {all after rest : List Char} {char : Char} {chars : List Char}
      (first : Letter all char after) (others : Letters after chars rest) :
      Letters all (char :: chars) rest

/-! ## Values -/

/-- Some space, or none. -/
def Space (all rest : List Char) : Prop :=
  ∃ blank, all = blank ++ rest ∧ ∀ char ∈ blank, isSpace char = true

/-- One or more things with commas between them, up to the mark behind the last. -/
inductive Row {α : Type} (Reads : List Char → α → List Char → Prop) (close : Char) :
    List Char → List α → List Char → Prop
  /-- The last thing. -/
  | last {all rest : List Char} {item : α} (element : Reads all item (close :: rest)) :
      Row Reads close all [item] rest
  /-- A thing in front of others. -/
  | more {all others rest : List Char} {item : α} {items : List α}
      (element : Reads all item (',' :: others)) (behind : Row Reads close others items rest) :
      Row Reads close all (item :: items) rest

mutual

/-- A value without space around it. -/
inductive Value : List Char → Datum → List Char → Prop
  /-- Nothing. -/
  | null {rest : List Char} : Value ('n' :: 'u' :: 'l' :: 'l' :: rest) .null rest
  /-- What is true. -/
  | yes {rest : List Char} : Value ('t' :: 'r' :: 'u' :: 'e' :: rest) (.bool true) rest
  /-- What is false. -/
  | no {rest : List Char} : Value ('f' :: 'a' :: 'l' :: 's' :: 'e' :: rest) (.bool false) rest
  /-- A number. -/
  | number {all rest : List Char} (numeral : Numeral) (written : all = numeral.chars ++ rest) :
      Value all (.number numeral.value) rest
  /-- A text. -/
  | string {inner chars rest : List Char} (letters : Letters inner chars rest) :
      Value ('"' :: inner) (.string (String.ofList chars)) rest
  /-- An array without items. -/
  | emptyArray {inner rest : List Char} (space : Space inner (']' :: rest)) :
      Value ('[' :: inner) (.array []) rest
  /-- An array with items. -/
  | array {inner rest : List Char} {items : List Datum}
      (content : Row Element ']' inner items rest) :
      Value ('[' :: inner) (.array items) rest
  /-- An object without members. -/
  | emptyObject {inner rest : List Char} (space : Space inner ('\x7d' :: rest)) :
      Value ('\x7b' :: inner) (.object []) rest
  /-- An object with members. -/
  | object {inner rest : List Char} {members : List (String × Datum)}
      (content : Row Member '\x7d' inner members rest) :
      Value ('\x7b' :: inner) (.object members) rest

/-- A value with space around it. -/
inductive Element : List Char → Datum → List Char → Prop
  /-- Space, a value, and space. -/
  | mk {all first after rest : List Char} {datum : Datum} (before : Space all first)
      (value : Value first datum after) (behind : Space after rest) : Element all datum rest

/-- A name and a value with space around them. -/
inductive Member : List Char → String × Datum → List Char → Prop
  /-- A text, a colon and a value. -/
  | mk {all inner colon after rest : List Char} {chars : List Char} {datum : Datum}
      (before : Space all ('"' :: inner)) (name : Letters inner chars colon)
      (behind : Space colon (':' :: after)) (value : Element after datum rest) :
      Member all (String.ofList chars, datum) rest

end

end Grammar

/-- Characters are one JSON text with a meaning. -/
def Denotes (chars : List Char) (datum : Datum) : Prop := Grammar.Element chars datum []

namespace Grammar

/-! ## Numbers have one meaning -/

/-- What stands behind a number begins with nothing that would go on with it. -/
def Stops (rest : List Char) : Prop :=
  ∀ char more, rest = char :: more → char.isDigit = false ∧ char ∉ ['.', 'e', 'E']

/-- Digits end where something else begins. -/
theorem Digits.unique {first second : Digits} {rest left : List Char}
    (same : first.chars ++ rest = second.chars ++ left) (ends : EndsNumber rest)
    (stops : EndsNumber left) : first = second ∧ rest = left := by
  have taken {digits : Digits} {others : List Char} (ends : EndsNumber others) :
      (digits.chars ++ others).takeWhile Char.isDigit = digits.chars := by
    have none : others.takeWhile Char.isDigit = [] := by
      cases others with
      | nil => rfl
      | cons char more => rw [List.takeWhile_cons, ends char more rfl, if_neg Bool.false_ne_true]
    rw [List.takeWhile_append_of_pos digits.decimal, none, List.append_nil]
  have chars : first.chars = second.chars := by
    rw [← taken ends, same, taken stops]
  rw [chars] at same
  obtain ⟨_, _, _⟩ := first
  obtain ⟨_, _, _⟩ := second
  cases chars
  exact ⟨rfl, List.append_cancel_left same⟩

/-- Digits begin with a digit. -/
theorem Digits.head (digits : Digits) :
    ∃ first others, digits.chars = first :: others ∧ first.isDigit = true := by
  obtain ⟨first, others, same⟩ := List.exists_cons_of_ne_nil digits.filled
  exact ⟨first, others, same, digits.decimal first (same ▸ List.mem_cons_self)⟩

/-- The two signs are different characters. -/
theorem Sign.char_injective : Function.Injective Sign.char := by
  intro first second same
  cases first <;> cases second
  · rfl
  · cases same
  · cases same
  · rfl

/-- No digit is a sign. -/
theorem Digits.ne_sign (digits : Digits) (rest : List Char) (sign : Sign) (more : List Char) :
    digits.chars ++ rest ≠ sign.char :: more := by
  obtain ⟨first, others, same, digit⟩ := digits.head
  rw [same]
  rintro begins
  cases begins
  cases sign <;> cases digit

/-- An exponent ends where a number does. -/
theorem exponent_unique {first second : Option Exponent} {rest left : List Char}
    (same : Numeral.exponentChars first ++ rest = Numeral.exponentChars second ++ left)
    (ends : Stops rest) (stops : Stops left) : first = second ∧ rest = left := by
  have digitless {others : List Char} (stops : Stops others) : EndsNumber others :=
    fun char more begins => (stops char more begins).1
  -- What follows a missing exponent does not begin with the letter of one.
  have missing {exponent : Exponent} {others more : List Char} (stops : Stops others) :
      others ≠ exponent.letter :: more := by
    intro begins
    have none := (stops _ _ begins).2
    obtain small | large := exponent.marked
    · exact none (by rw [small]; decide)
    · exact none (by rw [large]; decide)
  match first, second with
  | none, none => exact ⟨rfl, same⟩
  | none, some exponent => exact absurd same (missing ends)
  | some exponent, none => exact absurd same.symm (missing stops)
  | some ⟨letter, marked, sign, digits⟩, some ⟨other, _, otherSign, otherDigits⟩ =>
    simp only [Numeral.exponentChars, Exponent.chars, List.cons_append, List.cons.injEq,
      List.append_assoc] at same
    obtain ⟨rfl, same⟩ := same
    match sign, otherSign with
    | none, none =>
      obtain ⟨rfl, rest⟩ := Digits.unique same (digitless ends) (digitless stops)
      exact ⟨rfl, rest⟩
    | none, some sign => exact absurd same (digits.ne_sign rest sign _)
    | some sign, none => exact absurd same.symm (otherDigits.ne_sign left sign _)
    | some sign, some otherSign =>
      cases Sign.char_injective (List.cons.inj same).1
      obtain ⟨rfl, rest⟩ :=
        Digits.unique (List.cons.inj same).2 (digitless ends) (digitless stops)
      exact ⟨rfl, rest⟩

/-- What stands behind a fraction begins with no digit and no point. -/
theorem exponent_begins {exponent : Option Exponent} {rest : List Char} (stops : Stops rest)
    {char : Char} {more : List Char}
    (same : Numeral.exponentChars exponent ++ rest = char :: more) :
    char.isDigit = false ∧ char ≠ '.' := by
  cases exponent with
  | none =>
    obtain ⟨digit, others⟩ := stops char more same
    exact ⟨digit, fun point => others (point ▸ List.mem_cons_self)⟩
  | some exponent =>
    have letter : exponent.letter = char := (List.cons.inj same).1
    rw [← letter]
    obtain small | large := exponent.marked
    · rw [small]
      decide
    · rw [large]
      decide

/-- A fraction ends where the exponent begins. -/
theorem fraction_unique {first second : Option Digits} {power other : Option Exponent}
    {rest left : List Char}
    (same : Numeral.fractionChars first ++ (Numeral.exponentChars power ++ rest) =
      Numeral.fractionChars second ++ (Numeral.exponentChars other ++ left))
    (ends : Stops rest) (stops : Stops left) :
    first = second ∧ Numeral.exponentChars power ++ rest = Numeral.exponentChars other ++ left := by
  match first, second with
  | none, none => exact ⟨rfl, same⟩
  | none, some digits => exact absurd rfl (exponent_begins ends same).2
  | some digits, none => exact absurd rfl (exponent_begins stops same.symm).2
  | some digits, some others =>
    obtain ⟨rfl, rest⟩ := Digits.unique (List.cons.inj same).2
      (fun _ _ begins => (exponent_begins ends begins).1)
      (fun _ _ begins => (exponent_begins stops begins).1)
    exact ⟨rfl, rest⟩

/-- The digits before the point end at the point, at the exponent or with the number. -/
theorem fraction_begins {fraction : Option Digits} {exponent : Option Exponent}
    {rest : List Char} (stops : Stops rest) :
    EndsNumber (Numeral.fractionChars fraction ++ (Numeral.exponentChars exponent ++ rest)) := by
  intro char more same
  cases fraction with
  | none => exact (exponent_begins stops same).1
  | some digits =>
    cases same
    rfl

/-- A number ends where nothing would go on with it. -/
theorem Numeral.unique {first second : Numeral} {rest left : List Char}
    (same : first.chars ++ rest = second.chars ++ left) (ends : Stops rest)
    (stops : Stops left) : first = second ∧ rest = left := by
  obtain ⟨negative, whole, plain, fraction, exponent⟩ := first
  obtain ⟨otherNegative, otherWhole, otherPlain, otherFraction, otherExponent⟩ := second
  simp only [Numeral.chars, List.append_assoc] at same
  have unsigned : whole.chars ++ (fractionChars fraction ++ (exponentChars exponent ++ rest)) =
      otherWhole.chars ++ (fractionChars otherFraction ++
        (exponentChars otherExponent ++ left)) ∧ negative = otherNegative := by
    cases negative <;> cases otherNegative
    · exact ⟨same, rfl⟩
    · exact absurd same (whole.ne_sign _ .minus _)
    · exact absurd same.symm (otherWhole.ne_sign _ .minus _)
    · exact ⟨(List.cons.inj same).2, rfl⟩
  obtain ⟨digits, rfl⟩ := unsigned
  obtain ⟨rfl, places⟩ := Digits.unique digits (fraction_begins ends) (fraction_begins stops)
  obtain ⟨rfl, power⟩ := fraction_unique places ends stops
  obtain ⟨rfl, behind⟩ := exponent_unique power ends stops
  exact ⟨rfl, behind⟩

/-- A number begins with a digit or a minus sign. -/
theorem Numeral.begins (numeral : Numeral) :
    ∃ first others, numeral.chars = first :: others ∧ (first = '-' ∨ first.isDigit = true) := by
  obtain ⟨first, others, same, digit⟩ := numeral.whole.head
  cases minus : numeral.negative with
  | true => exact ⟨'-', _, by rw [chars, minus, if_pos rfl]; rfl, .inl rfl⟩
  | false =>
    have unsigned : numeral.chars = first :: (others ++
        (fractionChars numeral.fraction ++ exponentChars numeral.exponent)) := by
      rw [chars, minus, if_neg Bool.false_ne_true, same, List.nil_append, List.cons_append]
    exact ⟨first, _, unsigned, .inr digit⟩

/-! ## Texts have one meaning -/

/-- The number of a character is not that of half of a surrogate pair. -/
theorem hexNumber?_of_codePoint? {digits : List Char} {char : Char}
    (point : codePoint? digits = some char) :
    ∃ code, hexNumber? digits = some code ∧ ¬High code := by
  unfold codePoint? at point
  cases number : hexNumber? digits with
  | none =>
    rw [number] at point
    cases point
  | some code =>
    refine ⟨code, rfl, ?_⟩
    rintro ⟨above, below⟩
    have half : ¬code.isValidChar := by
      intro valid
      unfold Nat.isValidChar at valid
      omega
    simp only [number, Option.bind_eq_bind, Option.bind_some, if_neg half] at point
    cases point

/-- What is written for a character of a text stands for no other one. -/
theorem Letter.unique {all rest left : List Char} {char other : Char}
    (first : Letter all char rest) (second : Letter all other left) :
    char = other ∧ rest = left := by
  cases first with
  | plain printed inside solid =>
    cases second with
    | plain => exact ⟨rfl, rfl⟩
    | escape => exact absurd rfl solid
    | code => exact absurd rfl solid
    | pair => exact absurd rfl solid
  | escape named =>
    cases second with
    | plain _ _ solid => exact absurd rfl solid
    | escape again => exact ⟨Option.some.inj (named.symm.trans again), rfl⟩
    | code => cases named
    | pair => cases named
  | code point =>
    cases second with
    | plain _ _ solid => exact absurd rfl solid
    | escape named => cases named
    | code again => exact ⟨Option.some.inj (point.symm.trans again), rfl⟩
    | pair upper _ above _ =>
      obtain ⟨code, number, whole⟩ := hexNumber?_of_codePoint? point
      cases number.symm.trans upper
      exact absurd above whole
  | pair upper lower above below =>
    cases second with
    | plain _ _ solid => exact absurd rfl solid
    | escape named => cases named
    | code point =>
      obtain ⟨code, number, whole⟩ := hexNumber?_of_codePoint? point
      cases number.symm.trans upper
      exact absurd above whole
    | pair otherUpper otherLower _ _ =>
      cases upper.symm.trans otherUpper
      cases lower.symm.trans otherLower
      exact ⟨rfl, rfl⟩

/-- No character of a text begins with a quote. -/
theorem Letter.ne_quote {rest left : List Char} {char : Char} :
    ¬Letter ('"' :: rest) char left := by
  intro letter
  cases letter with
  | plain printed inside solid => exact inside rfl

/-- A text ends with the first quote that is no character of it. -/
theorem Letters.unique {all rest left chars others : List Char} (first : Letters all chars rest)
    (second : Letters all others left) : chars = others ∧ rest = left := by
  induction first generalizing others left with
  | close =>
    cases second with
    | close => exact ⟨rfl, rfl⟩
    | more letter => exact absurd letter Letter.ne_quote
  | more letter behind ih =>
    cases second with
    | close => exact absurd letter Letter.ne_quote
    | more again others =>
      obtain ⟨rfl, rfl⟩ := letter.unique again
      obtain ⟨rfl, rfl⟩ := ih others
      exact ⟨rfl, rfl⟩

/-! ## Values have one meaning -/

/-- What may stand behind a value and the space behind it. -/
def Closes (rest : List Char) : Prop :=
  ∀ char more, rest = char :: more → char ∈ [']', '\x7d', ',']

/-- A mark closes a value. -/
theorem closes_mark {mark : Char} (closing : mark ∈ [']', '\x7d', ',']) (rest : List Char) :
    Closes (mark :: rest) := by
  intro char more same
  cases same
  exact closing

/-- Something other than space, or nothing. -/
def Solid (rest : List Char) : Prop := ∀ char more, rest = char :: more → isSpace char = false

/-- A character that is no space is solid. -/
theorem solid_cons {char : Char} (solid : isSpace char = false) (rest : List Char) :
    Solid (char :: rest) := by
  intro first more same
  cases same
  exact solid

/-- No space closes a value. -/
theorem Closes.solid {rest : List Char} (closes : Closes rest) : Solid rest := by
  have marks : ∀ mark ∈ [']', '\x7d', ','], isSpace mark = false := by
    simp only [List.forall_mem_cons, List.not_mem_nil, false_implies, implies_true]
    decide
  exact fun char more same => marks char (closes char more same)

/-- Space ends where something else begins. -/
theorem Space.unique {all rest left : List Char} (first : Space all rest)
    (second : Space all left) (ends : Solid rest) (stops : Solid left) : rest = left := by
  have dropped {others : List Char} (space : Space all others) (solid : Solid others) :
      all.dropWhile isSpace = others := by
    obtain ⟨blank, rfl, blanks⟩ := space
    rw [List.dropWhile_append_of_pos blanks]
    cases others with
    | nil => rfl
    | cons char more => rw [List.dropWhile_cons, solid char more rfl, if_neg Bool.false_ne_true]
  rw [← dropped first ends, dropped second stops]

/-- A number does not go on with space or with what closes it. -/
theorem Space.stops {all rest : List Char} (space : Space all rest) (closes : Closes rest) :
    Stops all := by
  have marks : ∀ mark ∈ [']', '\x7d', ','], mark.isDigit = false ∧ mark ∉ ['.', 'e', 'E'] := by
    simp only [List.forall_mem_cons, List.not_mem_nil, false_implies, implies_true]
    decide
  obtain ⟨blank, rfl, blanks⟩ := space
  intro char more same
  cases blank with
  | nil => exact marks char (closes char more same)
  | cons first others =>
    have space := blanks first List.mem_cons_self
    cases same
    simp only [isSpace, Bool.or_eq_true, decide_eq_true_eq] at space
    obtain ((rfl | rfl) | rfl) | rfl := space <;> decide

/-- A value begins with no space and with nothing that closes one. -/
theorem Value.begins {all rest : List Char} {datum : Datum} (value : Value all datum rest) :
    ∃ char more, all = char :: more ∧ isSpace char = false ∧ char ∉ [']', '\x7d', ','] := by
  cases value with
  | number numeral written =>
    obtain ⟨first, others, same, lead⟩ := numeral.begins
    refine ⟨first, others ++ rest, by rw [written, same]; rfl, ?_⟩
    obtain rfl | digit := lead
    · decide
    · have other (char : Char) (letter : char.isDigit = false) : first ≠ char := by
        rintro rfl
        rw [digit] at letter
        cases letter
      simp [isSpace, other ' ' rfl, other '\t' rfl, other '\n' rfl, other '\r' rfl,
        other ']' rfl, other '\x7d' rfl, other ',' rfl]
  | null | yes | no | string _ | emptyArray _ | array _ | emptyObject _ | object _ =>
    exact ⟨_, _, rfl, by decide⟩

/-- A value does not begin with space. -/
theorem Value.solid {all rest : List Char} {datum : Datum} (value : Value all datum rest) :
    Solid all := by
  obtain ⟨char, more, rfl, solid, -⟩ := value.begins
  exact solid_cons solid more

/-- No bracket stands where a value begins. -/
theorem Element.ne_space {all rest more : List Char} {datum : Datum}
    (element : Element all datum rest) : ¬Space all (']' :: more) := by
  intro space
  cases element with
  | mk before value behind =>
    cases before.unique space value.solid (solid_cons rfl _)
    obtain ⟨char, others, same, -, outside⟩ := value.begins
    cases same
    exact outside (by decide)

/-- No brace stands where a member begins. -/
theorem Member.ne_space {all rest more : List Char} {member : String × Datum}
    (element : Member all member rest) : ¬Space all ('\x7d' :: more) := by
  intro space
  cases element with
  | mk before name behind value =>
    cases before.unique space (solid_cons rfl _) (solid_cons rfl _)

/-- What has things in it does not end before the first. -/
theorem Row.ne_space {α : Type} {reads : List Char → α → List Char → Prop} {close : Char}
    {all rest : List Char} {items : List α} (content : Row reads close all items rest)
    {more : List Char}
    (filled : ∀ {item rest}, reads all item rest → ¬Space all (close :: more)) :
    ¬Space all (close :: more) := by
  cases content with
  | last element => exact filled element
  | more element behind => exact filled element

/-- Things in a row end with the first mark behind one of them, if each of them ends in one
place. -/
theorem Row.unique {α : Type} {reads : List Char → α → List Char → Prop} {close : Char}
    (closing : close ∈ [']', '\x7d']) {all rest left : List Char} {items others : List α}
    (first : Row reads close all items rest) (second : Row reads close all others left)
    (each : ∀ item ∈ items, ∀ {all rest other left}, reads all item rest → reads all other left →
      Closes rest → Closes left → item = other ∧ rest = left) :
    items = others ∧ rest = left := by
  have comma (rest : List Char) : Closes (',' :: rest) := closes_mark (by decide) rest
  have final (rest : List Char) : Closes (close :: rest) :=
    closes_mark (by simp only [List.mem_cons] at closing ⊢; tauto) rest
  have different {rest left : List Char} : ',' :: rest ≠ close :: left := by
    intro same
    cases (List.cons.inj same).1
    exact absurd closing (by decide)
  induction first generalizing others left with
  | last element =>
    cases second with
    | last again =>
      obtain ⟨rfl, same⟩ := each _ List.mem_cons_self element again (final _) (final _)
      exact ⟨rfl, (List.cons.inj same).2⟩
    | more again =>
      exact absurd (each _ List.mem_cons_self element again (final _) (comma _)).2.symm different
  | more element behind ih =>
    cases second with
    | last again =>
      exact absurd (each _ List.mem_cons_self element again (comma _) (final _)).2 different
    | more again otherBehind =>
      obtain ⟨rfl, same⟩ := each _ List.mem_cons_self element again (comma _) (comma _)
      cases same
      obtain ⟨rfl, rfl⟩ := ih otherBehind fun item inside =>
        each item (List.mem_cons_of_mem _ inside)
      exact ⟨rfl, rfl⟩

/-- A value other than a number does not begin like one. -/
theorem Numeral.ne_mark (numeral : Numeral) {mark : Char}
    (other : mark ≠ '-' ∧ mark.isDigit = false) (rest more : List Char) :
    mark :: more ≠ numeral.chars ++ rest := by
  obtain ⟨first, others, same, lead⟩ := numeral.begins
  rw [same]
  rintro begins
  cases begins
  obtain minus | digit := lead
  · exact other.1 minus
  · exact absurd digit (by rw [other.2]; exact Bool.false_ne_true)

mutual

/-- A value means one thing and ends in one place. -/
theorem Value.unique {all rest left : List Char} {datum other : Datum}
    (first : Value all datum rest) (second : Value all other left) (ends : Stops rest)
    (stops : Stops left) : datum = other ∧ rest = left := by
  cases first with
  | null =>
    cases second with
    | null => exact ⟨rfl, rfl⟩
    | number numeral written => exact absurd written (numeral.ne_mark (by decide) _ _)
  | yes =>
    cases second with
    | yes => exact ⟨rfl, rfl⟩
    | number numeral written => exact absurd written (numeral.ne_mark (by decide) _ _)
  | no =>
    cases second with
    | no => exact ⟨rfl, rfl⟩
    | number numeral written => exact absurd written (numeral.ne_mark (by decide) _ _)
  | number numeral written =>
    cases second with
    | number again same =>
      obtain ⟨rfl, rfl⟩ := Numeral.unique (written.symm.trans same) ends stops
      exact ⟨rfl, rfl⟩
    | null | yes | no | string _ | emptyArray _ | array _ | emptyObject _ | object _ =>
      exact absurd written (numeral.ne_mark (by decide) _ _)
  | string letters =>
    cases second with
    | string again =>
      obtain ⟨rfl, rfl⟩ := letters.unique again
      exact ⟨rfl, rfl⟩
    | number numeral written => exact absurd written (numeral.ne_mark (by decide) _ _)
  | emptyArray space =>
    cases second with
    | emptyArray again =>
      cases space.unique again (solid_cons rfl _) (solid_cons rfl _)
      exact ⟨rfl, rfl⟩
    | array content => exact absurd space (content.ne_space Element.ne_space)
    | number numeral written => exact absurd written (numeral.ne_mark (by decide) _ _)
  | array content =>
    cases second with
    | emptyArray space => exact absurd space (content.ne_space Element.ne_space)
    | array again =>
      obtain ⟨rfl, rfl⟩ := content.unique (by decide) again fun item inside => Element.unique
      exact ⟨rfl, rfl⟩
    | number numeral written => exact absurd written (numeral.ne_mark (by decide) _ _)
  | emptyObject space =>
    cases second with
    | emptyObject again =>
      cases space.unique again (solid_cons rfl _) (solid_cons rfl _)
      exact ⟨rfl, rfl⟩
    | object content => exact absurd space (content.ne_space Member.ne_space)
    | number numeral written => exact absurd written (numeral.ne_mark (by decide) _ _)
  | object content =>
    cases second with
    | emptyObject space => exact absurd space (content.ne_space Member.ne_space)
    | object again =>
      obtain ⟨rfl, rfl⟩ := content.unique (by decide) again fun member inside => Member.unique
      exact ⟨rfl, rfl⟩
    | number numeral written => exact absurd written (numeral.ne_mark (by decide) _ _)
termination_by (sizeOf datum, 0)

/-- Space around a value belongs to no other one. -/
theorem Element.unique {all rest left : List Char} {datum other : Datum}
    (first : Element all datum rest) (second : Element all other left) (ends : Closes rest)
    (stops : Closes left) : datum = other ∧ rest = left := by
  cases first with
  | mk before value behind =>
    cases second with
    | mk otherBefore otherValue otherBehind =>
      cases before.unique otherBefore value.solid otherValue.solid
      obtain ⟨rfl, rfl⟩ :=
        Value.unique value otherValue (behind.stops ends) (otherBehind.stops stops)
      exact ⟨rfl, behind.unique otherBehind ends.solid stops.solid⟩
termination_by (sizeOf datum, 1)

/-- A member has one name and one value. -/
theorem Member.unique {all rest left : List Char} {member other : String × Datum}
    (first : Member all member rest) (second : Member all other left) (ends : Closes rest)
    (stops : Closes left) : member = other ∧ rest = left := by
  cases first with
  | mk before name behind value =>
    cases second with
    | mk otherBefore otherName otherBehind otherValue =>
      cases before.unique otherBefore (solid_cons rfl _) (solid_cons rfl _)
      obtain ⟨rfl, rfl⟩ := name.unique otherName
      cases behind.unique otherBehind (solid_cons rfl _) (solid_cons rfl _)
      obtain ⟨rfl, rfl⟩ := Element.unique value otherValue ends stops
      exact ⟨rfl, rfl⟩
termination_by (sizeOf member, 0)

end

end Grammar

/-- A JSON text means one thing. -/
theorem Denotes.unique {chars : List Char} {datum other : Datum} (first : Denotes chars datum)
    (second : Denotes chars other) : datum = other := by
  have nothing : Grammar.Closes [] := nofun
  exact (Grammar.Element.unique first second nothing nothing).1

end AstView.Json

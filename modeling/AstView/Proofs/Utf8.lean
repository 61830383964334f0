import AstView.Text.Utf8
import Mathlib.Tactic.Basic

/-!
# Reading and writing UTF-8

The chunks of the bytes of a text are its characters (`chunks_encode`), so both readings return
the text that was written. The strict reading accepts nothing else: `decode_eq_ok_iff` says that
a byte list is read as a text exactly when it is the bytes of that text, and `toOption_decode`
connects it with the reader of the standard library.

Bytes that are no text are read lossily. A scalar value that is pending needs more than seven bits
(`Pending.Long`), so a byte below 0x80 is never part of it: such a byte is read as its character and
divides what is read before it from what is read behind it (`lossy_byte`), and nothing else is read
as that character (`byte_mem_of_lossy`).
-/
namespace AstView.Utf8

/-- A number below 256 is read back from its byte. -/
theorem toNat_byte {value : Nat} (small : value < 256) : (byte value).toNat = value := by
  simp only [byte, UInt8.toNat_ofNat']
  omega

/-- A byte is the byte of its number. -/
theorem byte_toNat (octet : UInt8) : byte octet.toNat = octet := UInt8.ofNat_toNat

/-- The numbers of characters leave out the surrogates. -/
theorem toNat_scalar (char : Char) :
    char.toNat < 0xD800 ∨ 0xDFFF < char.toNat ∧ char.toNat < 0x110000 := by
  have valid := char.valid
  simp only [UInt32.isValidChar, Nat.isValidChar] at valid
  exact valid

/-- A number outside of the surrogates is read back from its character. -/
theorem toNat_ofNat {value : Nat} (scalar : value < 0xD800 ∨ 0xDFFF < value ∧ value < 0x110000) :
    (Char.ofNat value).toNat = value := by
  have valid : value.isValidChar := scalar
  rw [Char.ofNat, dif_pos valid]
  rfl

/-- A number is read back from its character, unless there is none and it stands for zero. -/
theorem toNat_ofNat_cases (value : Nat) :
    (Char.ofNat value).toNat = value ∨ (Char.ofNat value).toNat = 0 := by
  by_cases valid : value.isValidChar
  · exact .inl (toNat_ofNat valid)
  · rw [Char.ofNat, dif_neg valid]
    exact .inr rfl

/-! ## One character -/

/-- A character is written as in the standard library. -/
theorem encodeChar_eq (char : Char) : encodeChar char = String.utf8EncodeChar char := by
  have scalar := toNat_scalar char
  have number : char.val.toNat = char.toNat := rfl
  simp only [encodeChar, String.utf8EncodeChar, number, byte]
  by_cases one : char.toNat < 0x80
  · rw [if_pos one, if_pos (by omega)]
  · rw [if_neg one, if_neg (by omega : ¬char.toNat ≤ 0x7F)]
    by_cases two : char.toNat < 0x800
    · rw [if_pos two, if_pos (by omega : char.toNat ≤ 0x7FF),
        Nat.mod_eq_of_lt (by omega : char.toNat / 64 < 0x20), Nat.add_comm 0xC0,
        Nat.add_comm 0x80]
    · rw [if_neg two, if_neg (by omega : ¬char.toNat ≤ 0x7FF)]
      by_cases three : char.toNat < 0x10000
      · rw [if_pos three, if_pos (by omega : char.toNat ≤ 0xFFFF),
          Nat.mod_eq_of_lt (by omega : char.toNat / 4096 < 0x10), Nat.add_comm 0xE0,
          Nat.add_comm 0x80, Nat.add_comm 0x80]
      · rw [if_neg three, if_neg (by omega : ¬char.toNat ≤ 0xFFFF),
          Nat.mod_eq_of_lt (by omega : char.toNat / 262144 < 0x08), Nat.add_comm 0xF0,
          Nat.add_comm 0x80, Nat.add_comm 0x80, Nat.add_comm 0x80]

section
variable {seen value next : Nat} {low high : UInt8} (small : next < 256)
  (above : low.toNat ≤ next) (below : next ≤ high.toNat)
include small above below

/-- The range of a pending character is a range of numbers. -/
theorem byte_inside : low ≤ byte next ∧ byte next ≤ high := by
  rw [UInt8.le_iff_toNat_le, UInt8.le_iff_toNat_le, toNat_byte small]
  exact ⟨above, below⟩

/-- The last byte of a character completes it. -/
theorem step_last :
    step (some ⟨seen, value, 0, low, high⟩) (byte next) =
      ([.scalar (Char.ofNat (value * 64 + (next - 0x80)))], none) := by
  simp only [step, if_pos (byte_inside small above below), toNat_byte small]

/-- Any other byte in range leaves the character pending. -/
theorem step_more {owed : Nat} :
    step (some ⟨seen, value, owed + 1, low, high⟩) (byte next) =
      ([], some ⟨seen + 1, value * 64 + (next - 0x80), owed, 0x80, 0xBF⟩) := by
  simp only [step, if_pos (byte_inside small above below), toNat_byte small]

end

/-- The first of two bytes. -/
theorem start_two {value : Nat} (above : 0x80 ≤ value) (below : value < 0x800) :
    start (byte (0xC0 + value / 64)) = ([], some ⟨1, value / 64, 0, 0x80, 0xBF⟩) := by
  simp only [start, toNat_byte (by omega : 0xC0 + value / 64 < 256)]
  rw [if_neg (by omega), if_neg (by omega), if_pos (by omega), Nat.add_sub_cancel_left]

/-- The first of three bytes lets the second one through. -/
theorem start_three {value : Nat} (above : 0x800 ≤ value) (below : value < 0x10000)
    (scalar : value < 0xD800 ∨ 0xDFFF < value) :
    ∃ low high, start (byte (0xE0 + value / 4096)) = ([], some ⟨1, value / 4096, 1, low, high⟩) ∧
      low.toNat ≤ 0x80 + value / 64 % 64 ∧ 0x80 + value / 64 % 64 ≤ high.toNat := by
  simp only [start, toNat_byte (by omega : 0xE0 + value / 4096 < 256)]
  rw [if_neg (by omega), if_neg (by omega), if_neg (by omega)]
  by_cases least : value / 4096 = 0
  · rw [if_pos (by omega), least]
    exact ⟨_, _, rfl, by simp; omega, by simp; omega⟩
  · rw [if_neg (by omega)]
    by_cases surrogates : value / 4096 = 0xD
    · rw [if_pos (by omega), surrogates]
      exact ⟨_, _, rfl, by simp, by simp; omega⟩
    · rw [if_neg (by omega), if_pos (by omega), Nat.add_sub_cancel_left]
      exact ⟨_, _, rfl, by simp, by simp; omega⟩

/-- The first of four bytes lets the second one through. -/
theorem start_four {value : Nat} (above : 0x10000 ≤ value) (below : value < 0x110000) :
    ∃ low high,
      start (byte (0xF0 + value / 262144)) = ([], some ⟨1, value / 262144, 2, low, high⟩) ∧
      low.toNat ≤ 0x80 + value / 4096 % 64 ∧ 0x80 + value / 4096 % 64 ≤ high.toNat := by
  simp only [start, toNat_byte (by omega : 0xF0 + value / 262144 < 256)]
  rw [if_neg (by omega), if_neg (by omega), if_neg (by omega), if_neg (by omega),
    if_neg (by omega), if_neg (by omega)]
  by_cases least : value / 262144 = 0
  · rw [if_pos (by omega), least]
    exact ⟨_, _, rfl, by simp; omega, by simp; omega⟩
  · rw [if_neg (by omega)]
    by_cases greatest : value / 262144 = 4
    · rw [if_neg (by omega), if_pos (by omega), greatest]
      exact ⟨_, _, rfl, by simp, by simp; omega⟩
    · rw [if_pos (by omega), Nat.add_sub_cancel_left]
      exact ⟨_, _, rfl, by simp, by simp; omega⟩

/-- The bytes of a character are one chunk. -/
theorem chunks_encodeChar (char : Char) (rest : Bytes) :
    chunks (encodeChar char ++ rest) = .scalar char :: chunks rest := by
  have scalar := toNat_scalar char
  have same : Char.ofNat char.toNat = char := Char.ofNat_toNat char
  unfold encodeChar
  generalize char.toNat = value at *
  subst same
  -- A byte after the first is in the range that every byte after the second has.
  have low {group : Nat} : (0x80 : UInt8).toNat ≤ 0x80 + group % 64 := by simp
  have high {group : Nat} : 0x80 + group % 64 ≤ (0xBF : UInt8).toNat := by simp; omega
  have small {group : Nat} : 0x80 + group % 64 < 256 := by omega
  by_cases one : value < 0x80
  · simp only [if_pos one, chunks, List.cons_append, List.nil_append, chunksFrom, step, start,
      toNat_byte (by omega : value < 256)]
  by_cases two : value < 0x800
  · simp only [if_neg one, if_pos two, chunks, List.cons_append, List.nil_append, chunksFrom,
      show step none = start from rfl, start_two (by omega) two, step_last small low high]
    rw [show value / 64 * 64 + (0x80 + value % 64 - 0x80) = value by omega]
  by_cases three : value < 0x10000
  · obtain ⟨first, last, found, above, below⟩ := start_three (by omega) three (by omega)
    simp only [if_neg one, if_neg two, if_pos three, chunks, List.cons_append, List.nil_append,
      chunksFrom, show step none = start from rfl, found, step_more small above below,
      step_last small low high]
    rw [show (value / 4096 * 64 + (0x80 + value / 64 % 64 - 0x80)) * 64 +
      (0x80 + value % 64 - 0x80) = value by omega]
  · obtain ⟨first, last, found, above, below⟩ := start_four (by omega) (by omega : value < 0x110000)
    simp only [if_neg one, if_neg two, if_neg three, chunks, List.cons_append, List.nil_append,
      chunksFrom, show step none = start from rfl, found, step_more small above below,
      step_more small low high, step_last small low high]
    rw [show ((value / 262144 * 64 + (0x80 + value / 4096 % 64 - 0x80)) * 64 +
      (0x80 + value / 64 % 64 - 0x80)) * 64 + (0x80 + value % 64 - 0x80) = value by omega]

/-! ## Texts -/

/-- The bytes of a text are chunks of one character each. -/
theorem chunks_encode_append (chars : List Char) (rest : Bytes) :
    chunks (chars.flatMap encodeChar ++ rest) = chars.map .scalar ++ chunks rest := by
  induction chars with
  | nil => rfl
  | cons char chars ih =>
    rw [List.flatMap_cons, List.append_assoc, chunks_encodeChar, ih]
    rfl

/-- The chunks of the bytes of a text are its characters. -/
theorem chunks_encode (text : String) : chunks (encode text) = text.toList.map .scalar := by
  have written := chunks_encode_append text.toList []
  rwa [List.append_nil, show chunks [] = [] from rfl, List.append_nil] at written

/-- The lossy reading returns the text that was written. -/
theorem lossy_encode (text : String) : lossy (encode text) = text := by
  rw [lossy, chunks_encode, List.map_map]
  have kept : ((fun chunk => (Chunk.char? chunk).getD '\uFFFD') ∘ Chunk.scalar) = id := rfl
  rw [kept, List.map_id, String.ofList_toList]

/-- Characters are read from their chunks, wherever they begin. -/
theorem charsFrom_scalars (index : Nat) (chars : List Char) :
    charsFrom index (chars.map .scalar) = .ok chars := by
  induction chars generalizing index with
  | nil => rfl
  | cons char chars ih =>
    simp only [List.map_cons, charsFrom, ih]
    rfl

/-- The strict reading returns the text that was written. -/
theorem decode_encode (text : String) : decode (encode text) = .ok text := by
  rw [decode, chunks_encode, charsFrom_scalars]
  simp only [Except.map, String.ofList_toList]

/-- Chunks are read as characters only if all of them are characters. -/
theorem eq_scalars_of_charsFrom {index : Nat} {chunks : List Chunk} {chars : List Char}
    (read : charsFrom index chunks = .ok chars) : chunks = chars.map .scalar := by
  induction chunks generalizing index chars with
  | nil =>
    cases read
    rfl
  | cons chunk chunks ih =>
    cases chunk with
    | bad length => cases read
    | cut length => cases read
    | scalar char =>
      simp only [charsFrom] at read
      cases inner : charsFrom (index + (encodeChar char).length) chunks with
      | error fault => simp [inner, Except.map] at read
      | ok rest =>
        simp only [inner, Except.map, Except.ok.injEq] at read
        rw [← read, ih inner, List.map_cons]

/-- A pending character that becomes one goes on with a byte in range. -/
theorem pending_inside {pending : Pending} {bytes : Bytes} {chars : List Char}
    (read : chunksFrom (some pending) bytes = chars.map .scalar) :
    ∃ next rest, bytes = byte next :: rest ∧ next < 256 ∧ pending.low.toNat ≤ next ∧
      next ≤ pending.high.toNat := by
  cases bytes with
  | nil => cases chars <;> simp [chunksFrom] at read
  | cons next rest =>
    by_cases inside : pending.low ≤ next ∧ next ≤ pending.high
    · exact ⟨next.toNat, rest, by rw [byte_toNat], next.toNat_lt,
        UInt8.le_iff_toNat_le.1 inside.1, UInt8.le_iff_toNat_le.1 inside.2⟩
    · cases chars <;> simp [chunksFrom, step, inside] at read

/-- A pending character that owes no byte after the next one is completed by it. -/
theorem pending_last {seen value : Nat} {low high : UInt8} {bytes : Bytes} {chars : List Char}
    (read : chunksFrom (some ⟨seen, value, 0, low, high⟩) bytes = chars.map .scalar) :
    ∃ next rest later, bytes = byte next :: rest ∧ low.toNat ≤ next ∧ next ≤ high.toNat ∧
      chars = Char.ofNat (value * 64 + (next - 0x80)) :: later ∧
      chunks rest = later.map .scalar := by
  obtain ⟨next, rest, rfl, small, above, below⟩ := pending_inside read
  simp only [chunksFrom, step_last small above below] at read
  cases chars with
  | nil => cases read
  | cons char later =>
    simp only [List.cons_append, List.nil_append, List.map_cons, List.cons.injEq,
      Chunk.scalar.injEq] at read
    exact ⟨next, rest, later, rfl, above, below, by rw [read.1], read.2⟩

/-- A pending character that owes more bytes is still pending after the next one. -/
theorem pending_more {seen value owed : Nat} {low high : UInt8} {bytes : Bytes}
    {chars : List Char}
    (read : chunksFrom (some ⟨seen, value, owed + 1, low, high⟩) bytes = chars.map .scalar) :
    ∃ next rest, bytes = byte next :: rest ∧ low.toNat ≤ next ∧ next ≤ high.toNat ∧
      chunksFrom (some ⟨seen + 1, value * 64 + (next - 0x80), owed, 0x80, 0xBF⟩) rest =
        chars.map .scalar := by
  obtain ⟨next, rest, rfl, small, above, below⟩ := pending_inside read
  simp only [chunksFrom, step_more small above below, List.nil_append] at read
  exact ⟨next, rest, rfl, above, below, read⟩

/-- Two bytes that complete a character are the bytes of that character. -/
theorem encodeChar_two {first second : Nat} (least : 0xC2 ≤ first) (greatest : first < 0xE0)
    (above : 0x80 ≤ second) (below : second ≤ 0xBF) :
    encodeChar (Char.ofNat ((first - 0xC0) * 64 + (second - 0x80))) =
      [byte first, byte second] := by
  have scalar : (first - 0xC0) * 64 + (second - 0x80) < 0xD800 := by omega
  simp only [encodeChar, toNat_ofNat (.inl scalar)]
  rw [if_neg (by omega), if_pos (by omega),
    show 0xC0 + ((first - 0xC0) * 64 + (second - 0x80)) / 64 = first by omega,
    show 0x80 + ((first - 0xC0) * 64 + (second - 0x80)) % 64 = second by omega]

/-- Three bytes that complete a character are the bytes of that character. -/
theorem encodeChar_three {first second third : Nat} (least : 0xE0 ≤ first) (greatest : first < 0xF0)
    (above : 0x80 ≤ second) (below : second ≤ 0xBF) (long : first = 0xE0 → 0xA0 ≤ second)
    (surrogates : first = 0xED → second ≤ 0x9F) (low : 0x80 ≤ third) (high : third ≤ 0xBF) :
    encodeChar (Char.ofNat (((first - 0xE0) * 64 + (second - 0x80)) * 64 + (third - 0x80))) =
      [byte first, byte second, byte third] := by
  have scalar : ((first - 0xE0) * 64 + (second - 0x80)) * 64 + (third - 0x80) < 0xD800 ∨
      0xDFFF < ((first - 0xE0) * 64 + (second - 0x80)) * 64 + (third - 0x80) ∧
        ((first - 0xE0) * 64 + (second - 0x80)) * 64 + (third - 0x80) < 0x110000 := by
    omega
  simp only [encodeChar, toNat_ofNat scalar]
  generalize number : ((first - 0xE0) * 64 + (second - 0x80)) * 64 + (third - 0x80) = value
  rw [if_neg (by omega), if_neg (by omega), if_pos (by omega),
    show 0xE0 + value / 4096 = first by omega,
    show 0x80 + value / 64 % 64 = second by omega, show 0x80 + value % 64 = third by omega]

/-- Four bytes that complete a character are the bytes of that character. -/
theorem encodeChar_four {first second third fourth : Nat} (least : 0xF0 ≤ first)
    (greatest : first < 0xF5) (above : 0x80 ≤ second) (below : second ≤ 0xBF)
    (long : first = 0xF0 → 0x90 ≤ second) (last : first = 0xF4 → second ≤ 0x8F)
    (low : 0x80 ≤ third) (high : third ≤ 0xBF) (lowest : 0x80 ≤ fourth) (highest : fourth ≤ 0xBF) :
    encodeChar (Char.ofNat ((((first - 0xF0) * 64 + (second - 0x80)) * 64 + (third - 0x80)) * 64 +
      (fourth - 0x80))) = [byte first, byte second, byte third, byte fourth] := by
  have scalar : 0xDFFF < (((first - 0xF0) * 64 + (second - 0x80)) * 64 + (third - 0x80)) * 64 +
      (fourth - 0x80) ∧ (((first - 0xF0) * 64 + (second - 0x80)) * 64 + (third - 0x80)) * 64 +
      (fourth - 0x80) < 0x110000 := by
    omega
  simp only [encodeChar, toNat_ofNat (.inr scalar)]
  generalize number : (((first - 0xF0) * 64 + (second - 0x80)) * 64 + (third - 0x80)) * 64 +
    (fourth - 0x80) = value
  rw [if_neg (by omega), if_neg (by omega), if_neg (by omega),
    show 0xF0 + value / 262144 = first by omega, show 0x80 + value / 4096 % 64 = second by omega,
    show 0x80 + value / 64 % 64 = third by omega, show 0x80 + value % 64 = fourth by omega]

/-- A pending character of two bytes that becomes one is written by them. -/
theorem two_scalars {first : Nat} {rest : Bytes} {chars : List Char} (least : 0xC2 ≤ first)
    (greatest : first < 0xE0)
    (read : chunksFrom (some ⟨1, first - 0xC0, 0, 0x80, 0xBF⟩) rest = chars.map .scalar) :
    ∃ char tail later, byte first :: rest = encodeChar char ++ tail ∧ chars = char :: later ∧
      chunks tail = later.map .scalar := by
  obtain ⟨second, tail, later, rfl, above, below, rfl, left⟩ := pending_last read
  refine ⟨_, tail, later, ?_, rfl, left⟩
  rw [encodeChar_two least greatest above below]
  rfl

/-- A pending character of three bytes that becomes one is written by them. -/
theorem three_scalars {first : Nat} {low high : UInt8} {rest : Bytes} {chars : List Char}
    (least : 0xE0 ≤ first) (greatest : first < 0xF0) (tail : 0x80 ≤ low.toNat ∧ high.toNat ≤ 0xBF)
    (long : first = 0xE0 → 0xA0 ≤ low.toNat) (surrogates : first = 0xED → high.toNat ≤ 0x9F)
    (read : chunksFrom (some ⟨1, first - 0xE0, 1, low, high⟩) rest = chars.map .scalar) :
    ∃ char tail later, byte first :: rest = encodeChar char ++ tail ∧ chars = char :: later ∧
      chunks tail = later.map .scalar := by
  obtain ⟨second, rest, rfl, above, below, read⟩ := pending_more read
  obtain ⟨third, tail, later, rfl, lowest, highest, rfl, left⟩ := pending_last read
  refine ⟨_, tail, later, ?_, rfl, left⟩
  rw [encodeChar_three least greatest (by omega) (by omega)
    (fun same => Nat.le_trans (long same) above)
    (fun same => Nat.le_trans below (surrogates same)) lowest highest]
  rfl

/-- A pending character of four bytes that becomes one is written by them. -/
theorem four_scalars {first : Nat} {low high : UInt8} {rest : Bytes} {chars : List Char}
    (least : 0xF0 ≤ first) (greatest : first < 0xF5) (tail : 0x80 ≤ low.toNat ∧ high.toNat ≤ 0xBF)
    (long : first = 0xF0 → 0x90 ≤ low.toNat) (last : first = 0xF4 → high.toNat ≤ 0x8F)
    (read : chunksFrom (some ⟨1, first - 0xF0, 2, low, high⟩) rest = chars.map .scalar) :
    ∃ char tail later, byte first :: rest = encodeChar char ++ tail ∧ chars = char :: later ∧
      chunks tail = later.map .scalar := by
  obtain ⟨second, rest, rfl, above, below, read⟩ := pending_more read
  obtain ⟨third, rest, rfl, lower, higher, read⟩ := pending_more read
  obtain ⟨fourth, tail, later, rfl, lowest, highest, rfl, left⟩ := pending_last read
  refine ⟨_, tail, later, ?_, rfl, left⟩
  rw [encodeChar_four least greatest (by omega) (by omega)
    (fun same => Nat.le_trans (long same) above) (fun same => Nat.le_trans below (last same))
    lower higher lowest highest]
  rfl

/-- A byte list whose chunks are characters begins with the bytes of the first of them. -/
theorem first_scalar {first : UInt8} {rest : Bytes} {chars : List Char}
    (read : chunks (first :: rest) = chars.map .scalar) :
    ∃ char tail later, first :: rest = encodeChar char ++ tail ∧ chars = char :: later ∧
      chunks tail = later.map .scalar := by
  have bound := first.toNat_lt
  have named := byte_toNat first
  simp only [chunks, chunksFrom, step, start] at read
  generalize first.toNat = value at *
  subst named
  have refused {length : Nat} {later : List Chunk} :
      ([Chunk.bad length] ++ later) ≠ chars.map .scalar := by
    cases chars <;> simp
  split at read
  · rename_i one
    cases chars with
    | nil => simp at read
    | cons char later =>
      simp only [List.cons_append, List.nil_append, List.map_cons, List.cons.injEq,
        Chunk.scalar.injEq] at read
      refine ⟨char, rest, later, ?_, rfl, read.2⟩
      simp only [← read.1, encodeChar, toNat_ofNat (.inl (by omega : value < 0xD800)), if_pos one]
      rfl
  split at read
  · exact absurd read refused
  split at read
  · exact two_scalars (by omega) (by omega) read
  split at read
  · rename_i same
    subst same
    exact three_scalars (by decide) (by decide) (by decide) (by decide) (by decide) read
  split at read
  · rename_i same
    subst same
    exact three_scalars (by decide) (by decide) (by decide) (by decide) (by decide) read
  split at read
  · exact three_scalars (by omega) (by omega) (by decide) (by omega) (by omega) read
  split at read
  · rename_i same
    subst same
    exact four_scalars (by decide) (by decide) (by decide) (by decide) (by decide) read
  split at read
  · exact four_scalars (by omega) (by omega) (by decide) (by omega) (by omega) read
  split at read
  · rename_i same
    subst same
    exact four_scalars (by decide) (by decide) (by decide) (by decide) (by decide) read
  · exact absurd read refused

/-- A byte list whose chunks are characters is the bytes of those characters. -/
theorem eq_encode_of_chunks (bytes : Bytes) (chars : List Char)
    (read : chunks bytes = chars.map .scalar) : bytes = chars.flatMap encodeChar := by
  induction chars generalizing bytes with
  | nil =>
    cases bytes with
    | nil => rfl
    | cons first rest =>
      obtain ⟨_, _, _, _, impossible, _⟩ := first_scalar read
      cases impossible
  | cons char chars ih =>
    cases bytes with
    | nil => simp [chunks, chunksFrom] at read
    | cons first rest =>
      obtain ⟨char, tail, later, written, same, left⟩ := first_scalar read
      cases same
      rw [written, ih tail left, List.flatMap_cons]

/-- A byte list is read as a text exactly when it is the bytes of that text. -/
theorem decode_eq_ok_iff {bytes : Bytes} {text : String} :
    decode bytes = .ok text ↔ bytes = encode text := by
  constructor
  · intro read
    unfold decode at read
    cases found : charsFrom 0 (chunks bytes) with
    | error fault => simp [found, Except.map] at read
    | ok chars =>
      simp only [found, Except.map, Except.ok.injEq] at read
      rw [eq_encode_of_chunks bytes chars (eq_scalars_of_charsFrom found), encode, ← read,
        String.toList_ofList]
  · rintro rfl
    exact decode_encode text

/-- The bytes of two texts in a row are those of the first and then those of the second. -/
theorem encode_append (first second : String) :
    encode (first ++ second) = encode first ++ encode second := by
  rw [encode, String.toList_append, List.flatMap_append]
  rfl

/-- The bytes of texts in a row are those of each text in order. -/
theorem encode_join (texts : List String) :
    encode (String.join texts) = (texts.map encode).flatten := by
  induction texts with
  | nil => rfl
  | cons text rest ih =>
    rw [String.join_cons, encode_append, ih, List.map_cons, List.flatten_cons]

/-- Different texts have different bytes. -/
theorem encode_injective : Function.Injective encode := by
  intro left right same
  have read := decode_encode left
  rw [same, decode_encode] at read
  exact (Except.ok.inj read).symm

/-! ## Single bytes -/

/-- A character is one byte below 0x80, or all its bytes are above that. -/
theorem encodeChar_cases (char : Char) :
    char.toNat < 0x80 ∧ encodeChar char = [byte char.toNat] ∨
      ∀ octet ∈ encodeChar char, 0x80 ≤ octet.toNat := by
  have scalar := toNat_scalar char
  unfold encodeChar
  generalize char.toNat = value at *
  simp only
  by_cases one : value < 0x80
  · exact .inl ⟨one, if_pos one⟩
  · rw [if_neg one]
    right
    repeat' split
    all_goals
      simp (disch := omega) only [List.forall_mem_cons, List.not_mem_nil, toNat_byte]
      simp only [false_implies, implies_true, and_true]
      omega

/-- A byte below 0x80 stands for its character and for no part of another one. -/
theorem byte_mem_encode {char : Char} (ascii : char.toNat < 0x80) {text : String}
    (inside : byte char.toNat ∈ encode text) : char ∈ text.toList := by
  have small : (byte char.toNat).toNat = char.toNat := toNat_byte (by omega)
  obtain ⟨other, member, found⟩ := List.mem_flatMap.1 inside
  obtain ⟨single, written⟩ | long := encodeChar_cases other
  · rw [written, List.mem_singleton, ← UInt8.toNat_inj, small, toNat_byte (by omega)] at found
    exact Char.toNat_inj.1 found ▸ member
  · have above := long _ found
    omega

/-! ## Lossy reading -/

/-- What is true of a pending scalar value, which has more than seven bits: no byte that is a
character by itself goes on with it, and its bits before the last six are not all zero. -/
structure Pending.Long (pending : Pending) : Prop where
  /-- The next byte is no character by itself. -/
  low : 0x80 ≤ pending.low.toNat
  /-- The bits before the last six, with the least next byte if that one is not the last. -/
  bits : 2 ≤ if pending.owed = 0 then pending.value
    else pending.value * 64 + (pending.low.toNat - 0x80)

/-- A first byte that leaves a scalar value pending begins a long one. -/
theorem long_of_start {first : UInt8} {pending : Pending}
    (begun : (start first).2 = some pending) : pending.Long := by
  unfold start at begun
  simp only at begun
  repeat' split at begun
  all_goals cases begun
  all_goals exact ⟨by simp, by simp; try omega⟩

/-- A scalar value that is pending behind a byte is a long one if the one before was. -/
theorem long_of_step {state : Option Pending} {next : UInt8} {pending : Pending}
    (long : ∀ earlier ∈ state, earlier.Long) (left : (step state next).2 = some pending) :
    pending.Long := by
  cases state with
  | none => exact long_of_start left
  | some earlier =>
    by_cases inside : earlier.low ≤ next ∧ next ≤ earlier.high
    · obtain ⟨low, bits⟩ := long earlier rfl
      have above := UInt8.le_iff_toNat_le.1 inside.1
      simp only [step, if_pos inside] at left
      split at left
      · cases left
      · rename_i owed more
        cases left
        rw [more, if_neg (Nat.succ_ne_zero owed)] at bits
        have bits : 2 ≤ earlier.value * 64 + (next.toNat - 0x80) := by omega
        refine ⟨Nat.le_refl _, ?_⟩
        by_cases last : owed = 0
        · rwa [if_pos last]
        · rw [if_neg last]
          exact Nat.le_trans bits (by simp only; omega)
    · simp only [step, if_neg inside] at left
      exact long_of_start left

/-- A byte that is a character by itself ends what is pending before it. -/
theorem map_chunksFrom_byte {char : Char} (ascii : char.toNat < 0x80) {β : Type}
    (shown : Chunk → β) (cut : ∀ length, shown (.bad length) = shown (.cut length))
    (before after : Bytes) (state : Option Pending) (long : ∀ pending ∈ state, pending.Long) :
    (chunksFrom state (before ++ byte char.toNat :: after)).map shown =
      (chunksFrom state before).map shown ++ shown (.scalar char) :: (chunks after).map shown := by
  have own : start (byte char.toNat) = ([.scalar char], none) := by
    simp only [start, toNat_byte (by omega : char.toNat < 256), if_pos ascii, Char.ofNat_toNat]
  induction before generalizing state with
  | nil =>
    cases state with
    | none => simp [chunksFrom, step, own, chunks]
    | some pending =>
      have low := (long pending rfl).low
      have outside : ¬(pending.low ≤ byte char.toNat ∧ byte char.toNat ≤ pending.high) := by
        rw [UInt8.le_iff_toNat_le, toNat_byte (by omega : char.toNat < 256)]
        omega
      simp [chunksFrom, step, own, outside, chunks, cut]
  | cons next before ih =>
    have later := ih (step state next).2 fun pending left => long_of_step long left
    cases state <;> simp [chunksFrom, later]

/-- A character of one byte between byte lists is read as itself. -/
theorem lossy_byte {char : Char} (ascii : char.toNat < 0x80) (before after : Bytes) :
    (lossy (before ++ byte char.toNat :: after)).toList =
      (lossy before).toList ++ char :: (lossy after).toList := by
  simp only [lossy, String.toList_ofList]
  exact map_chunksFrom_byte ascii _ (fun _ => rfl) before after none nofun

/-- A first byte that is read as a character is the byte of that character. -/
theorem scalar_of_start {char : Char} {first : UInt8}
    (read : .scalar char ∈ (start first).1) : byte char.toNat = first := by
  unfold start at read
  simp only at read
  repeat' split at read
  all_goals simp at read
  rename_i one
  rw [read, toNat_ofNat (.inl (by omega)), byte_toNat]

/-- A byte that completes a character of one byte is the byte of that character. The byte zero is
left out, for a number that belongs to no character would be read as that one. -/
theorem scalar_of_step {char : Char} (ascii : char.toNat < 0x80) (visible : 0 < char.toNat)
    {state : Option Pending} {next : UInt8} (long : ∀ pending ∈ state, pending.Long)
    (read : .scalar char ∈ (step state next).1) : byte char.toNat = next := by
  cases state with
  | none => exact scalar_of_start read
  | some pending =>
    by_cases inside : pending.low ≤ next ∧ next ≤ pending.high
    · obtain ⟨-, bits⟩ := long pending rfl
      simp only [step, if_pos inside] at read
      split at read
      · rename_i last
        rw [if_pos last] at bits
        have same : char = Char.ofNat (pending.value * 64 + (next.toNat - 0x80)) :=
          Chunk.scalar.inj (List.mem_singleton.1 read)
        have number := toNat_ofNat_cases (pending.value * 64 + (next.toNat - 0x80))
        rw [← same] at number
        omega
      · cases read
    · simp only [step, if_neg inside, List.mem_cons, reduceCtorEq, false_or] at read
      exact scalar_of_start read

/-- A visible character of one byte is read only where its byte is. -/
theorem byte_mem_of_scalar {char : Char} (ascii : char.toNat < 0x80) (visible : 0 < char.toNat)
    {bytes : Bytes} {state : Option Pending} (long : ∀ pending ∈ state, pending.Long)
    (read : .scalar char ∈ chunksFrom state bytes) : byte char.toNat ∈ bytes := by
  induction bytes generalizing state with
  | nil => cases state <;> simp [chunksFrom] at read
  | cons next rest ih =>
    have split : .scalar char ∈ (step state next).1 ++ chunksFrom (step state next).2 rest := by
      cases state <;> exact read
    rcases List.mem_append.1 split with own | later
    · exact List.mem_cons.2 (.inl (scalar_of_step ascii visible long own))
    · exact List.mem_cons_of_mem _ (ih (fun pending left => long_of_step long left) later)

/-- A visible character of one byte is in the reading of a byte list only if its byte is in it. -/
theorem byte_mem_of_lossy {char : Char} (ascii : char.toNat < 0x80) (visible : 0 < char.toNat)
    {bytes : Bytes} (read : char ∈ (lossy bytes).toList) : byte char.toNat ∈ bytes := by
  rw [lossy, String.toList_ofList] at read
  obtain ⟨chunk, inside, shown⟩ := List.mem_map.1 read
  have missing : ('\uFFFD' : Char) ≠ char := by
    rintro rfl
    exact absurd ascii (by decide)
  cases chunk with
  | scalar other =>
    have same : other = char := shown
    have nothing : ∀ pending ∈ (none : Option Pending), pending.Long := nofun
    exact byte_mem_of_scalar ascii visible nothing (same ▸ inside)
  | bad length => exact absurd shown missing
  | cut length => exact absurd shown missing

/-! ## Order -/

/-- Byte lists are compared by their first bytes, and if those are the same by what follows. -/
theorem byte_cons_lt_iff {left right : Nat} (leftSmall : left < 256) (rightSmall : right < 256)
    {first second : Bytes} :
    byte left :: first < byte right :: second ↔ left < right ∨ left = right ∧ first < second := by
  rw [List.cons_lt_cons_iff, UInt8.lt_iff_toNat_lt, ← UInt8.toNat_inj, toNat_byte leftSmall,
    toNat_byte rightSmall]

/-- The bytes of a lesser character come first, whatever follows the characters. -/
theorem encodeChar_append_lt {lesser greater : Char} (less : lesser < greater)
    (first second : Bytes) : encodeChar lesser ++ first < encodeChar greater ++ second := by
  have number : lesser.toNat < greater.toNat := less
  have scalar := toNat_scalar greater
  unfold encodeChar
  generalize lesser.toNat = low at *
  generalize greater.toNat = high at *
  simp only
  -- The first byte tells how many bytes there are, and more bytes begin with a greater one. Of two
  -- characters with as many bytes, the lesser one has the lesser byte where they first differ.
  repeat' split
  all_goals
    simp (disch := omega) only [List.cons_append, List.nil_append, byte_cons_lt_iff]
    omega

/-- Texts are in the order of their bytes. -/
theorem encode_lt_encode {lesser greater : String} (less : lesser < greater) :
    encode lesser < encode greater := by
  have bytes {first second : List Char} (before : first < second) :
      first.flatMap encodeChar < second.flatMap encodeChar := by
    induction before with
    | @nil char rest =>
      rw [List.flatMap_nil, List.flatMap_cons, encodeChar]
      repeat' split
      all_goals exact List.nil_lt_cons _ _
    | @rel char first other second differs =>
      rw [List.flatMap_cons, List.flatMap_cons]
      exact encodeChar_append_lt differs _ _
    | @cons char first second _ ih =>
      rw [List.flatMap_cons, List.flatMap_cons]
      exact List.append_left_lt ih
  exact bytes (String.lt_iff.1 less)

/-! ## The standard library -/

/-- The bytes of a text are those that the standard library keeps. -/
theorem encode_eq (text : String) : encode text = text.toByteArray.data.toList := by
  rw [← String.utf8Encode_toList, List.utf8Encode, List.toList_data_toByteArray, encode,
    funext encodeChar_eq]

/-- The number of bytes of a text. -/
theorem length_encode (text : String) : (encode text).length = text.utf8ByteSize := by
  rw [encode_eq, ← String.size_toByteArray, Array.length_toList]
  rfl

/-- The strict reading accepts what the reader of the standard library accepts. -/
theorem toOption_decode (bytes : Bytes) :
    (decode bytes).toOption = String.fromUTF8? ⟨bytes.toArray⟩ := by
  by_cases valid : ByteArray.IsValidUTF8 ⟨bytes.toArray⟩
  · have written : bytes = encode (String.fromUTF8 ⟨bytes.toArray⟩ valid) := by
      rw [encode_eq]
      rfl
    have read := decode_eq_ok_iff.2 written
    rw [read, String.fromUTF8?, dif_pos valid]
    rfl
  · rw [String.fromUTF8?, dif_neg valid]
    cases read : decode bytes with
    | error fault => rfl
    | ok text =>
      apply absurd _ valid
      rw [decode_eq_ok_iff.1 read, encode_eq]
      exact text.isValidUTF8

end AstView.Utf8

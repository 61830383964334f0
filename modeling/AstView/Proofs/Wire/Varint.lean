import AstView.Proofs.Utf8
import AstView.Wire.Varint
import Mathlib.Algebra.Group.Nat.Defs

/-!
# Writing and reading numbers

A number below 2^64 is read back from its bytes, whatever follows them (`decode_encode`), and
`size` counts these bytes (`size_eq`). Both rest on the same step: dropping the low seven bits
drops one byte.
-/
namespace AstView.Wire.Varint

open Utf8 (toNat_byte)

/-- Dropping the low seven bits lowers the place of the highest bit by seven. -/
theorem log2_div {value : Nat} (large : 128 ≤ value) : (value / 128).log2 + 7 = value.log2 := by
  have half (number : Nat) (positive : 2 ≤ number) :
      number.log2 = (number / 2).log2 + 1 := by
    rw [Nat.log2_def, if_pos positive]
  rw [half value (by omega), half (value / 2) (by omega), half (value / 2 / 2) (by omega),
    half (value / 2 / 2 / 2) (by omega), half (value / 2 / 2 / 2 / 2) (by omega),
    half (value / 2 / 2 / 2 / 2 / 2) (by omega), half (value / 2 / 2 / 2 / 2 / 2 / 2) (by omega)]
  simp only [Nat.div_div_eq_div_mul]

/-- A number takes one byte for every seven bits. -/
theorem length_encode (value : Nat) : (encode value).length = value.log2 / 7 + 1 := by
  induction value using Nat.strongRecOn with
  | ind value ih =>
    rw [encode]
    split
    · rename_i small
      have low : value.log2 < 7 := by
        by_cases zero : value = 0
        · simp [zero]
        · exact (Nat.log2_lt zero).2 small
      simp only [List.length_singleton]
      omega
    · have high := log2_div (by omega : 128 ≤ value)
      rw [List.length_cons, ih (value / 128) (by omega)]
      omega

/-- The number of bytes is found out of the place of the highest bit. -/
theorem size_eq {value : Nat} (fits : value < 2 ^ 64) : size value = (encode value).length := by
  have place : value.log2 < 64 := by
    by_cases zero : value = 0
    · simp [zero]
    · exact (Nat.log2_lt zero).2 fits
  rw [size, length_encode]
  omega

/-- A greater number takes no fewer bytes. -/
theorem size_le_size {low high : Nat} (least : low ≤ high) : size low ≤ size high := by
  have place : low.log2 ≤ high.log2 := by
    by_cases zero : low = 0
    · rw [zero, Nat.log2_zero]
      exact Nat.zero_le _
    · exact (Nat.le_log2 (by omega)).2 (Nat.le_trans (Nat.log2_self_le zero) least)
  unfold size
  omega

/-- A number is read back behind so many bytes of the same number if the whole fits. -/
theorem decodeAt_encode {place value : Nat} (early : place ≤ 9)
    (fits : value < 2 ^ (64 - 7 * place)) (rest : Bytes) :
    decodeAt place (encode value ++ rest) = some (value, rest) := by
  induction value using Nat.strongRecOn generalizing place with
  | ind value ih =>
    rw [encode]
    by_cases small : value < 128
    · simp only [if_pos small, List.cons_append, List.nil_append, decodeAt,
        toNat_byte (by omega : value < 256)]
      by_cases last : place = 9
      · subst last
        rw [if_pos rfl]
        exact if_pos fits
      · rw [if_neg last]
    · have middle : place ≠ 9 := by
        rintro rfl
        have : value < 2 := fits
        omega
      have narrow : value / 128 < 2 ^ (64 - 7 * (place + 1)) := by
        rw [Nat.div_lt_iff_lt_mul (by decide), show (128 : Nat) = 2 ^ 7 from rfl, ← Nat.pow_add,
          show 64 - 7 * (place + 1) + 7 = 64 - 7 * place by omega]
        exact fits
      simp only [if_neg small, List.cons_append, decodeAt, if_neg middle,
        toNat_byte (by omega : 128 + value % 128 < 256)]
      rw [ih (value / 128) (by omega) (by omega) narrow,
        if_neg (by omega : ¬128 + value % 128 < 128)]
      simp only [Option.some.injEq, Prod.mk.injEq, and_true]
      omega

/-- A number is read back from its bytes. -/
theorem decode_encode {value : Nat} (fits : value < 2 ^ 64) (rest : Bytes) :
    decode (encode value ++ rest) = some (value, rest) :=
  decodeAt_encode (Nat.zero_le 9) fits rest

end AstView.Wire.Varint

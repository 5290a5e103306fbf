import Mathlib.Algebra.Order.Floor.Semifield
import Mathlib.Data.Rat.Floor
import TermSync.Decimal.Binary64

/-!
# The number that a double stands for

Main statements: `value_nonneg_iff` (a zero is not below zero, whatever its sign) and `floor_value`
(what is left without the fraction).
-/

namespace TermSync.Decimal.Binary64

/-- The number that a double stands for. -/
def value (d : Binary64) : ℚ := (if d.negative then -1 else 1) * (d.mantissa * 2 ^ d.exponent)

private theorem magnitude_pos {d : Binary64} (h : d.isZero = false) :
    (0 : ℚ) < d.mantissa * 2 ^ d.exponent := by
  have hmantissa : d.mantissa ≠ 0 := by simpa [isZero] using h
  exact mul_pos (by exact_mod_cast Nat.pos_of_ne_zero hmantissa) (zpow_pos (by norm_num) _)

private theorem value_of_isZero {d : Binary64} (h : d.isZero = true) : d.value = 0 := by
  have hmantissa : d.mantissa = 0 := by simpa [isZero] using h
  simp [value, hmantissa]

/-- Zero is not below zero, whatever its sign. -/
theorem value_nonneg_iff (d : Binary64) : 0 ≤ d.value ↔ (d.negative && !d.isZero) = false := by
  cases hz : d.isZero with
  | true => simp [value_of_isZero hz]
  | false =>
    have hpos := magnitude_pos hz
    cases hn : d.negative with
    | true => simpa [value, hn] using hpos
    | false => simpa [value, hn] using hpos.le

/-- A double's magnitude, as a quotient. -/
private theorem ratio_div (d : Binary64) :
    (d.ratio.1 : ℚ) / d.ratio.2 = d.mantissa * 2 ^ d.exponent := by
  by_cases h : d.exponent < 0
  · obtain ⟨k, hk⟩ : ∃ k : ℕ, d.exponent = -k := ⟨(-d.exponent).toNat, by omega⟩
    have hratio : d.ratio = (d.mantissa, Nat.pow 2 k) := by
      rw [ratio, if_pos h, hk, neg_neg, Int.toNat_natCast]
    rw [hratio, hk, zpow_neg, zpow_natCast, div_eq_mul_inv]
    simp
  · obtain ⟨k, hk⟩ : ∃ k : ℕ, d.exponent = k := ⟨d.exponent.toNat, by omega⟩
    have hratio : d.ratio = (d.mantissa * Nat.pow 2 k, 1) := by
      rw [ratio, if_neg h, hk, Int.toNat_natCast]
    rw [hratio, hk, zpow_natCast]
    simp

/-- The whole part of a double that is not below zero. -/
theorem floor_value {d : Binary64} (h : 0 ≤ d.value) : ⌊d.value⌋₊ = d.truncate := by
  have hvalue : d.value = d.ratio.1 / d.ratio.2 := by
    rw [ratio_div]
    rcases Bool.and_eq_false_iff.mp ((value_nonneg_iff d).mp h) with hn | hz
    · simp [value, hn]
    · have hzero : d.isZero = true := by simpa using hz
      have hmantissa : d.mantissa = 0 := by simpa [isZero] using hzero
      simp [value, hmantissa]
  rw [hvalue, Nat.floor_div_eq_div, truncate]

end TermSync.Decimal.Binary64

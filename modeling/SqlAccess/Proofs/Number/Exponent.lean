import Mathlib.Algebra.Order.Field.Power
import Mathlib.Data.Int.Log
import Mathlib.Data.Rat.Floor
import Mathlib.Tactic.FieldSimp
import Mathlib.Tactic.Linarith
import Mathlib.Tactic.NormNum
import Mathlib.Tactic.Positivity
import SqlAccess.Number.Shortest

/-!
# Leading exponents

The exponent of the leading digit of a ratio is its logarithm, rounded down, to the base of the
digits: of the leading bit in `FloatFormat.leadingExponent_eq_log`, of the leading decimal digit in
`Decimal.leadingExponent_eq_log`. So both depend on the ratio alone.
-/

namespace SqlAccess

/-- A power with its exponent split into numerator and denominator. -/
theorem pow_toNat_div_pow_toNat_neg {b : ℕ} (hb : 0 < b) (e : ℤ) :
    ((Nat.pow b e.toNat : ℕ) : ℚ) / (Nat.pow b (-e).toNat : ℕ) = (b : ℚ) ^ e := by
  have hb' : (b : ℚ) ≠ 0 := by exact_mod_cast hb.ne'
  rw [Nat.pow_eq, Nat.pow_eq]
  push_cast
  rw [← zpow_natCast, ← zpow_natCast, ← zpow_sub₀ hb']
  congr 1
  omega

theorem intLog_eq_of_mem {b : ℕ} (hb : 1 < b) {r : ℚ} (hr : 0 < r) {e : ℤ} (hlow : (b : ℚ) ^ e ≤ r)
    (hhigh : r < (b : ℚ) ^ (e + 1)) : Int.log b r = e := by
  have hle := (Int.zpow_le_iff_le_log hb hr).1 hlow
  have hlt := (Int.lt_zpow_iff_log_lt hb hr).1 hhigh
  omega

namespace FloatFormat

theorem overUnit_num_pos {num den : ℕ} (hn : 0 < num) (scale : ℤ) :
    0 < (overUnit num den scale).1 := by
  unfold overUnit
  split
  · exact hn
  · exact Nat.mul_pos hn (Nat.pow_pos (by decide))

theorem overUnit_den_pos {num den : ℕ} (hd : 0 < den) (scale : ℤ) :
    0 < (overUnit num den scale).2 := by
  unfold overUnit
  split
  · exact Nat.mul_pos hd (Nat.pow_pos (by decide))
  · exact hd

theorem overUnit_ratio (num den : ℕ) (scale : ℤ) :
    ((overUnit num den scale).1 : ℚ) / (overUnit num den scale).2 =
      (num : ℚ) / den / 2 ^ scale := by
  unfold overUnit
  split
  · next h =>
    obtain ⟨k, rfl⟩ := Int.eq_ofNat_of_zero_le h
    simp [div_div]
  · next h =>
    obtain ⟨k, rfl⟩ : ∃ k : ℕ, scale = -k := ⟨(-scale).toNat, by omega⟩
    simp [mul_div_right_comm]

theorem overUnit_le_iff {num den : ℕ} (hd : 0 < den) (scale : ℤ) :
    (overUnit num den scale).2 ≤ (overUnit num den scale).1 ↔
      (2 : ℚ) ^ scale ≤ (num : ℚ) / den := by
  have hd' : (0 : ℚ) < (overUnit num den scale).2 := by exact_mod_cast overUnit_den_pos hd scale
  have h := overUnit_ratio num den scale
  rw [← Nat.cast_le (α := ℚ), ← one_le_div hd', h, one_le_div (by positivity)]

/-- The difference of the logarithms misses that of the ratio by less than one. -/
theorem ratio_mem_of_log2 {num den : ℕ} (hn : 0 < num) (hd : 0 < den) :
    (2 : ℚ) ^ ((num.log2 : ℤ) - den.log2 - 1) ≤ (num : ℚ) / den ∧
      (num : ℚ) / den < 2 ^ ((num.log2 : ℤ) - den.log2 + 1) := by
  have hd' : (0 : ℚ) < den := by exact_mod_cast hd
  have hnlow : (2 : ℚ) ^ num.log2 ≤ num := by exact_mod_cast Nat.log2_self_le hn.ne'
  have hnhigh : (num : ℚ) < 2 ^ (num.log2 + 1) := by exact_mod_cast Nat.lt_log2_self
  have hdlow : (2 : ℚ) ^ den.log2 ≤ den := by exact_mod_cast Nat.log2_self_le hd.ne'
  have hdhigh : (den : ℚ) < 2 ^ (den.log2 + 1) := by exact_mod_cast Nat.lt_log2_self
  have hlow : (2 : ℚ) ^ ((num.log2 : ℤ) - den.log2 - 1) * 2 ^ (den.log2 + 1) = 2 ^ num.log2 := by
    rw [← zpow_natCast, ← zpow_natCast, ← zpow_add₀ two_ne_zero]
    congr 1
    push_cast
    omega
  have hhigh : (2 : ℚ) ^ ((num.log2 : ℤ) - den.log2 + 1) * 2 ^ den.log2 = 2 ^ (num.log2 + 1) := by
    rw [← zpow_natCast, ← zpow_natCast, ← zpow_add₀ two_ne_zero]
    congr 1
    push_cast
    omega
  constructor
  · rw [le_div_iff₀ hd']
    calc (2 : ℚ) ^ ((num.log2 : ℤ) - den.log2 - 1) * den
        ≤ 2 ^ ((num.log2 : ℤ) - den.log2 - 1) * 2 ^ (den.log2 + 1) := by gcongr
      _ = 2 ^ num.log2 := hlow
      _ ≤ num := hnlow
  · rw [div_lt_iff₀ hd']
    calc (num : ℚ) < 2 ^ (num.log2 + 1) := hnhigh
      _ = 2 ^ ((num.log2 : ℤ) - den.log2 + 1) * 2 ^ den.log2 := hhigh.symm
      _ ≤ 2 ^ ((num.log2 : ℤ) - den.log2 + 1) * den := by gcongr

/-- The exponent of the leading bit is the binary logarithm. -/
theorem leadingExponent_eq_log {num den : ℕ} (hn : 0 < num) (hd : 0 < den) :
    leadingExponent num den = Int.log 2 ((num : ℚ) / den) := by
  have hr : (0 : ℚ) < (num : ℚ) / den := by positivity
  obtain ⟨hlow, hhigh⟩ := ratio_mem_of_log2 hn hd
  have hle := @overUnit_le_iff num den hd ((num.log2 : ℤ) - den.log2)
  have hdef : leadingExponent num den =
      if (overUnit num den ((num.log2 : ℤ) - den.log2)).2 ≤
          (overUnit num den ((num.log2 : ℤ) - den.log2)).1
        then (num.log2 : ℤ) - den.log2 else (num.log2 : ℤ) - den.log2 - 1 := rfl
  rw [hdef]
  symm
  split
  · next h => exact intLog_eq_of_mem one_lt_two hr (hle.1 h) hhigh
  · next h =>
    refine intLog_eq_of_mem one_lt_two hr hlow ?_
    rw [sub_add_cancel]
    exact not_le.1 fun h' => h (hle.2 h')

end FloatFormat

namespace Decimal

theorem digitCount_pos (n : ℕ) : 0 < digitCount n := Nat.length_toDigits_pos

theorem lt_pow_digitCount (n : ℕ) : n < 10 ^ digitCount n :=
  (Nat.length_toDigits_le_iff (by decide) (digitCount_pos n)).1 le_rfl

theorem pow_digitCount_le {n : ℕ} (hn : 0 < n) : 10 ^ (digitCount n - 1) ≤ n := by
  by_contra hlt
  have hlt : n < 10 ^ (digitCount n - 1) := Nat.lt_of_not_le hlt
  cases hc : digitCount n - 1 with
  | zero => simp [hc] at hlt; omega
  | succ k =>
    have hle := (Nat.length_toDigits_le_iff (by decide) (by omega)).2 hlt
    have : digitCount n ≤ digitCount n - 1 := hle
    omega

/-- A quotient of naturals lies in the decade that the digits of its whole part give. -/
theorem mem_decade_of_le {num den : ℕ} (hd : 0 < den) (hle : den ≤ num) :
    10 ^ (digitCount (num / den) - 1) * den ≤ num ∧ num < 10 ^ digitCount (num / den) * den :=
  ⟨(Nat.le_div_iff_mul_le hd).1 (pow_digitCount_le (Nat.div_pos hle hd)),
    (Nat.div_lt_iff_lt_mul hd).1 (lt_pow_digitCount _)⟩

theorem log_eq_of_mem {r : ℚ} {e : ℤ} (hr : 0 < r) (hlow : (10 : ℚ) ^ e ≤ r)
    (hhigh : r < 10 ^ (e + 1)) : Int.log 10 r = e :=
  intLog_eq_of_mem (by decide) hr (by exact_mod_cast hlow) (by exact_mod_cast hhigh)

/-- The exponent of the leading decimal digit is the decimal logarithm. -/
theorem leadingExponent_eq_log {num den : ℕ} (hn : 0 < num) (hd : 0 < den) :
    leadingExponent num den = Int.log 10 ((num : ℚ) / den) := by
  have hd' : (0 : ℚ) < den := by exact_mod_cast hd
  have hr : (0 : ℚ) < (num : ℚ) / den := by positivity
  have hexp {c : ℕ} (hc : 0 < c) : (c : ℤ) - 1 = ((c - 1 : ℕ) : ℤ) := by omega
  symm
  by_cases hle : den ≤ num
  · obtain ⟨hlow, hhigh⟩ := mem_decade_of_le hd hle
    rw [leadingExponent, if_pos hle]
    refine log_eq_of_mem hr ?_ ?_
    · rw [le_div_iff₀ hd', hexp (digitCount_pos _), zpow_natCast]
      exact_mod_cast hlow
    · rw [div_lt_iff₀ hd', sub_add_cancel, zpow_natCast]
      exact_mod_cast hhigh
  · obtain ⟨hlow, hhigh⟩ := mem_decade_of_le hn (Nat.le_of_not_le hle)
    have hge (j : ℕ) : (10 : ℚ) ^ (-(j : ℤ)) ≤ num / den ↔ den ≤ 10 ^ j * num := by
      rw [zpow_neg, zpow_natCast, le_div_iff₀ hd', inv_mul_le_iff₀ (by positivity)]
      exact_mod_cast Iff.rfl
    have hlt (j : ℕ) : (num : ℚ) / den < 10 ^ (-(j : ℤ)) ↔ 10 ^ j * num < den := by
      rw [← not_le, hge, not_le]
    have hle' (j : ℕ) (h : 10 ^ j * num ≤ den) : (num : ℚ) / den ≤ 10 ^ (-(j : ℤ)) := by
      rw [zpow_neg, zpow_natCast, div_le_iff₀ hd', ← div_eq_inv_mul, le_div_iff₀ (by positivity)]
      exact_mod_cast (Nat.mul_comm _ _).le.trans h
    rw [leadingExponent, if_neg hle]
    simp only [Nat.pow_eq, Nat.mul_comm num, hexp (digitCount_pos _)]
    split
    · next h =>
      -- The ratio is the power of ten itself.
      refine log_eq_of_mem hr ((hge _).2 h) ((hle' _ hlow).trans_lt ?_)
      exact zpow_lt_zpow_right₀ (by norm_num) (by omega)
    · next h =>
      refine log_eq_of_mem hr ((hge _).2 hhigh.le) ?_
      have hsucc : -(digitCount (den / num) : ℤ) + 1 = -((digitCount (den / num) - 1 : ℕ) : ℤ) := by
        have := digitCount_pos (den / num)
        omega
      rw [hsucc]
      exact (hlt _).2 (Nat.lt_of_not_le h)

end Decimal

end SqlAccess

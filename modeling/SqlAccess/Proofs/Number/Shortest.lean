import Mathlib.Algebra.Order.Floor.Semifield
import SqlAccess.Proofs.Number.Exponent

/-!
# Shortest decimals

The search for the shortest decimal of a float, seen over the rationals: what it finds reads back
as the float (`contains_shortestDecimal`), and it finds something, as seventeen digits are enough
for every float of up to 53 bits. A float that is held with more bits has the narrower interval of
the two around it, and keeps its shortest decimal if that still lies there
(`shortestDecimal_shift`).
-/

namespace SqlAccess

namespace Decimal

/-- The number that a decimal stands for. -/
def value (d : Decimal) : ℚ :=
  d.digits * 10 ^ d.exponent

theorem value_mem {d : Decimal} (hd : 0 < d.digits) :
    (10 : ℚ) ^ (d.exponent + digitCount d.digits - 1) ≤ d.value ∧
      d.value < 10 ^ (d.exponent + digitCount d.digits) := by
  have hlow : (10 : ℚ) ^ (digitCount d.digits - 1) ≤ d.digits := by
    exact_mod_cast pow_digitCount_le hd
  have hhigh : (d.digits : ℚ) < 10 ^ digitCount d.digits := by
    exact_mod_cast lt_pow_digitCount d.digits
  have hcount : d.exponent + digitCount d.digits - 1 =
      ((digitCount d.digits - 1 : ℕ) : ℤ) + d.exponent := by
    have := digitCount_pos d.digits
    omega
  rw [hcount, add_comm d.exponent, zpow_add₀ (by norm_num), zpow_add₀ (by norm_num), zpow_natCast,
    zpow_natCast, value]
  exact ⟨by gcongr, by gcongr⟩

theorem value_trim (fuel : ℕ) (d : Decimal) : (d.trim fuel).value = d.value := by
  induction fuel generalizing d with
  | zero => rfl
  | succ fuel ih =>
    rw [trim]
    split
    · next h =>
      have hdigits : (d.digits : ℚ) = (d.digits / 10 : ℕ) * 10 := by
        exact_mod_cast (Nat.div_mul_cancel (Nat.dvd_of_mod_eq_zero h.2)).symm
      rw [ih, value, value, hdigits, zpow_add₀ (by norm_num), zpow_one]
      ring
    · rfl

end Decimal

namespace RoundingInterval

variable {i j : RoundingInterval} {tie : DecimalTie} {exponent leading : ℤ} {d : Decimal}

/-! ## The interval over the rationals -/

/-- The float itself. -/
def center (i : RoundingInterval) : ℚ :=
  i.value / i.den

def lower (i : RoundingInterval) : ℚ :=
  i.low / i.den

def upper (i : RoundingInterval) : ℚ :=
  i.high / i.den

/-- Whether `q` reads back as the float. -/
def Contains (i : RoundingInterval) (q : ℚ) : Prop :=
  if i.closed then i.lower ≤ q ∧ q ≤ i.upper else i.lower < q ∧ q < i.upper

instance (i : RoundingInterval) (q : ℚ) : Decidable (i.Contains q) :=
  inferInstanceAs (Decidable (if i.closed then i.lower ≤ q ∧ q ≤ i.upper else
    i.lower < q ∧ q < i.upper))

theorem contains_of_lt {q : ℚ} (hlower : i.lower < q) (hupper : q < i.upper) : i.Contains q := by
  unfold Contains
  split
  · exact ⟨hlower.le, hupper.le⟩
  · exact ⟨hlower, hupper⟩

theorem Contains.mem {q : ℚ} (h : i.Contains q) : i.lower ≤ q ∧ q ≤ i.upper := by
  unfold Contains at h
  split at h
  · exact h
  · exact ⟨h.1.le, h.2.le⟩

theorem contains_iff (hden : 0 < i.den) {n m : ℕ} (hm : 0 < m) :
    i.contains n m = true ↔ i.Contains ((n : ℚ) / m) := by
  have hden' : (0 : ℚ) < i.den := by exact_mod_cast hden
  have hm' : (0 : ℚ) < m := by exact_mod_cast hm
  unfold contains Contains lower upper
  split
  · rw [div_le_div_iff₀ hden' hm', div_le_div_iff₀ hm' hden', Bool.and_eq_true, decide_eq_true_iff,
      decide_eq_true_iff]
    norm_cast
  · rw [div_lt_div_iff₀ hden' hm', div_lt_div_iff₀ hm' hden', Bool.and_eq_true, decide_eq_true_iff,
      decide_eq_true_iff]
    norm_cast

theorem contains_grid (hden : 0 < i.den) (k : ℕ) (exponent : ℤ) :
    i.contains (k * Nat.pow 10 exponent.toNat) (Nat.pow 10 (-exponent).toNat) = true ↔
      i.Contains (Decimal.value ⟨k, exponent⟩) := by
  have hpos : 0 < Nat.pow 10 (-exponent).toNat := Nat.pow_pos (by decide)
  rw [contains_iff hden hpos, Decimal.value, Nat.cast_mul, mul_div_assoc,
    pow_toNat_div_pow_toNat_neg (by decide), Nat.cast_ofNat]

/-! ## The neighbours on a grid -/

/-- The last multiple of `10 ^ exponent` up to the float. -/
def below (i : RoundingInterval) (exponent : ℤ) : Decimal :=
  ⟨⌊i.center / 10 ^ exponent⌋₊, exponent⟩

/-- The multiple of `10 ^ exponent` behind it. -/
def above (i : RoundingInterval) (exponent : ℤ) : Decimal :=
  ⟨⌊i.center / 10 ^ exponent⌋₊ + 1, exponent⟩

/-- Whether `above` is taken where both neighbours read back. -/
def TakesAbove (i : RoundingInterval) (tie : DecimalTie) (exponent : ℤ) : Prop :=
  let middle := (i.below exponent).digits + (1 / 2 : ℚ)
  middle < i.center / 10 ^ exponent ∨
    middle = i.center / 10 ^ exponent ∧ (tie = .up ∨ (i.below exponent).digits % 2 = 1)

instance (i : RoundingInterval) (tie : DecimalTie) (exponent : ℤ) :
    Decidable (i.TakesAbove tie exponent) :=
  inferInstanceAs (Decidable (_ ∨ _))

theorem center_div_grid (i : RoundingInterval) (exponent : ℤ) :
    i.center / 10 ^ exponent = ((i.value * Nat.pow 10 (-exponent).toNat : ℕ) : ℚ) /
      (i.den * Nat.pow 10 exponent.toNat : ℕ) := by
  have hgrid := pow_toNat_div_pow_toNat_neg (b := 10) (by decide) exponent
  rw [Nat.cast_ofNat] at hgrid
  rw [← hgrid, center, Nat.cast_mul, Nat.cast_mul, div_div_div_eq]

/-- Where the middle between two neighbours lies, seen from the remainder. -/
theorem middle_cmp_div {n m : ℕ} (hm : 0 < m) :
    (((n / m : ℕ) : ℚ) + 1 / 2 < n / m ↔ m < 2 * (n % m)) ∧
      (((n / m : ℕ) : ℚ) + 1 / 2 = n / m ↔ m = 2 * (n % m)) := by
  have hm' : (0 : ℚ) < m := by exact_mod_cast hm
  have hn : (n : ℚ) = m * (n / m : ℕ) + (n % m : ℕ) := by
    exact_mod_cast (Nat.div_add_mod n m).symm
  rw [lt_div_iff₀ hm', eq_div_iff hm'.ne', ← Nat.cast_lt (α := ℚ), ← Nat.cast_inj (R := ℚ),
    Nat.cast_mul]
  constructor <;> constructor <;> intro h <;> push_cast at * <;> linarith

theorem takesAbove_iff (hden : 0 < i.den) (tie : DecimalTie) (exponent : ℤ) {unit scaled : ℕ}
    (hunit : i.den * Nat.pow 10 exponent.toNat = unit)
    (hscaled : i.value * Nat.pow 10 (-exponent).toNat = scaled) :
    i.TakesAbove tie exponent ↔ unit < 2 * (scaled % unit) ∨
      unit = 2 * (scaled % unit) ∧ (tie = .up ∨ scaled / unit % 2 = 1) := by
  have hpos : 0 < unit := hunit ▸ Nat.mul_pos hden (Nat.pow_pos (by decide))
  have hratio : i.center / 10 ^ exponent = (scaled : ℚ) / unit := by
    rw [center_div_grid, hunit, hscaled]
  obtain ⟨hlt, heq⟩ := middle_cmp_div (n := scaled) hpos
  simp only [TakesAbove, below, hratio, Nat.floor_div_eq_div, hlt, heq]

/-- One step of the search, with the neighbours and the interval as rationals. -/
theorem onGrid_eq (hden : 0 < i.den) (tie : DecimalTie) (exponent : ℤ) :
    i.onGrid tie exponent =
      if i.Contains (i.below exponent).value then
        if i.Contains (i.above exponent).value then
          some (if i.TakesAbove tie exponent then i.above exponent else i.below exponent)
        else some (i.below exponent)
      else if i.Contains (i.above exponent).value then some (i.above exponent) else none := by
  obtain ⟨unit, hunit⟩ : ∃ unit, i.den * Nat.pow 10 exponent.toNat = unit := ⟨_, rfl⟩
  obtain ⟨scaled, hscaled⟩ : ∃ scaled, i.value * Nat.pow 10 (-exponent).toNat = scaled := ⟨_, rfl⟩
  have hfloor : ⌊i.center / 10 ^ exponent⌋₊ = scaled / unit := by
    rw [center_div_grid, hunit, hscaled, Nat.floor_div_eq_div]
  have hcontains (k : ℕ) :
      i.contains (k * Nat.pow 10 exponent.toNat) (Nat.pow 10 (-exponent).toNat) =
        decide (i.Contains (Decimal.value ⟨k, exponent⟩)) :=
    Bool.eq_iff_iff.2 ((contains_grid hden k exponent).trans decide_eq_true_iff.symm)
  have htakes := takesAbove_iff hden tie exponent hunit hscaled
  simp only [onGrid, below, above, hunit, hscaled, hfloor, hcontains]
  by_cases hbelow : i.Contains (Decimal.value ⟨scaled / unit, exponent⟩) <;>
    by_cases habove : i.Contains (Decimal.value ⟨scaled / unit + 1, exponent⟩)
  · cases tie <;> simp [hbelow, habove, htakes] <;> split <;> rfl
  all_goals simp [hbelow, habove]

theorem onGrid_eq_none_iff (hden : 0 < i.den) :
    i.onGrid tie exponent = none ↔
      ¬ i.Contains (i.below exponent).value ∧ ¬ i.Contains (i.above exponent).value := by
  rw [onGrid_eq hden]
  split_ifs <;> simp [*]

theorem contains_of_onGrid (hden : 0 < i.den) (h : i.onGrid tie exponent = some d) :
    i.Contains d.value := by
  rw [onGrid_eq hden] at h
  split_ifs at h with hbelow habove hup habove <;> cases h <;> assumption

/-! ## What is found -/

theorem contains_of_search (hden : 0 < i.den) {fuel count : ℕ}
    (h : i.search tie leading fuel count = some d) : i.Contains d.value := by
  induction fuel generalizing count with
  | zero => cases h
  | succ fuel ih =>
    rw [search] at h
    split at h
    · next hgrid =>
      cases h
      exact contains_of_onGrid hden hgrid
    · exact ih h

/-- A hit on one of the grids tried is enough. -/
theorem exists_search_of_onGrid {fuel count k : ℕ} (hk : k < fuel)
    (h : i.onGrid tie (leading + 1 - (count + k : ℕ)) ≠ none) :
    ∃ d, i.search tie leading fuel count = some d := by
  induction fuel generalizing count k with
  | zero => cases hk
  | succ fuel ih =>
    rw [search]
    split
    · exact ⟨_, rfl⟩
    · next hgrid =>
      cases k with
      | zero => exact absurd hgrid h
      | succ k =>
        refine ih (Nat.lt_of_succ_lt_succ hk) ?_
        rwa [Nat.add_right_comm, Nat.add_assoc]

/-! ## An interval inside another -/

/-- `i` lies inside `j`, around the same float. -/
structure Inside (i j : RoundingInterval) : Prop where
  center_eq : i.center = j.center
  contains : ∀ q, i.Contains q → j.Contains q

/-- What is found in the outer interval is found in the inner one if it lies there: the other
neighbour was no hit in both, or lost in both. -/
theorem Inside.onGrid_eq_some (h : i.Inside j) (hi : 0 < i.den) (hj : 0 < j.den)
    (hgrid : j.onGrid tie exponent = some d) (hd : i.Contains d.value) :
    i.onGrid tie exponent = some d := by
  have hbelow : i.below exponent = j.below exponent := by rw [below, below, h.center_eq]
  have habove : i.above exponent = j.above exponent := by rw [above, above, h.center_eq]
  have htakes : i.TakesAbove tie exponent ↔ j.TakesAbove tie exponent := by
    rw [TakesAbove, TakesAbove, hbelow, h.center_eq]
  rw [onGrid_eq hj] at hgrid
  rw [onGrid_eq hi, hbelow, habove]
  have hnot {q : ℚ} (hq : ¬ j.Contains q) : ¬ i.Contains q := fun hc => hq (h.contains q hc)
  split_ifs at hgrid with hb ha hup ha <;> cases hgrid
  · simp [hd, htakes, hup]
  · simp [hd, htakes, hup]
  · simp [hd, hnot ha]
  · simp [hd, hnot hb]

/-- Coarser grids without a hit in the outer interval have none in the inner one. -/
theorem Inside.search_eq_some (h : i.Inside j) (hi : 0 < i.den) (hj : 0 < j.den) {fuel count : ℕ}
    (hsearch : j.search tie leading fuel count = some d) (hd : i.Contains d.value) :
    i.search tie leading fuel count = some d := by
  induction fuel generalizing count with
  | zero => cases hsearch
  | succ fuel ih =>
    rw [search] at hsearch ⊢
    split at hsearch
    · next hgrid =>
      cases hsearch
      rw [h.onGrid_eq_some hi hj hgrid hd]
    · next hgrid =>
      obtain ⟨hbelow, habove⟩ := (onGrid_eq_none_iff hj).1 hgrid
      have hnone : i.onGrid tie (leading + 1 - count) = none := by
        refine (onGrid_eq_none_iff hi).2 ⟨fun hc => hbelow ?_, fun hc => habove ?_⟩
        · rw [below, ← h.center_eq]
          exact h.contains _ hc
        · rw [above, ← h.center_eq]
          exact h.contains _ hc
      rw [hnone]
      exact ih hsearch

/-! ## Seventeen digits -/

/-- Between ends that lie further apart than the grid's points there is one of them, and then a
neighbour of the float is. -/
theorem onGrid_ne_none (hden : 0 < i.den) (hlower : i.lower < i.center)
    (hupper : i.center < i.upper) (hgrid : (10 : ℚ) ^ exponent < i.upper - i.lower) :
    i.onGrid tie exponent ≠ none := by
  have hpow : (0 : ℚ) < 10 ^ exponent := by positivity
  have hcenter : 0 ≤ i.center := div_nonneg (Nat.cast_nonneg _) (Nat.cast_nonneg _)
  have hle : (i.below exponent).value ≤ i.center :=
    (le_div_iff₀ hpow).1 (Nat.floor_le (div_nonneg hcenter hpow.le))
  have hlt : i.center < (i.above exponent).value := by
    rw [Decimal.value, above, ← div_lt_iff₀ hpow]
    exact_mod_cast Nat.lt_floor_add_one _
  have hnext : (i.above exponent).value = (i.below exponent).value + 10 ^ exponent := by
    simp only [Decimal.value, above, below, Nat.cast_add, Nat.cast_one]
    ring
  rw [Ne, onGrid_eq_none_iff hden]
  rintro ⟨hbelow, habove⟩
  rcases lt_or_ge i.lower (i.below exponent).value with hin | hout
  · exact hbelow (contains_of_lt hin (hle.trans_lt hupper))
  · exact habove (contains_of_lt (hlower.trans hlt) (by linarith))

theorem ofFinite_den_pos (f : FloatFormat) (significand : ℕ) (scale : ℤ) :
    0 < (ofFinite f significand scale).den :=
  Nat.mul_pos (by decide) (Nat.pow_pos (by decide))

/-- The part of the last place's unit that belongs to a float below it. -/
def lowerPart (f : FloatFormat) (significand : ℕ) (scale : ℤ) : ℚ :=
  if significand = 2 ^ f.fractionBits ∧ f.minScale < scale then 1 / 4 else 1 / 2

variable {f : FloatFormat} {significand : ℕ} {scale : ℤ}

theorem scaled_div (n : ℕ) (scale : ℤ) :
    ((n * Nat.pow 2 scale.toNat : ℕ) : ℚ) / (4 * Nat.pow 2 (-scale).toNat : ℕ) =
      n / 4 * 2 ^ scale := by
  have hpow := pow_toNat_div_pow_toNat_neg (b := 2) (by decide) scale
  rw [Nat.cast_ofNat] at hpow
  rw [← hpow, Nat.cast_mul, Nat.cast_mul, mul_div_mul_comm, Nat.cast_ofNat]

theorem center_ofFinite (f : FloatFormat) (significand : ℕ) (scale : ℤ) :
    (ofFinite f significand scale).center = significand * 2 ^ scale := by
  refine (scaled_div (4 * significand) scale).trans ?_
  push_cast
  ring

theorem upper_ofFinite (f : FloatFormat) (significand : ℕ) (scale : ℤ) :
    (ofFinite f significand scale).upper = (significand + 1 / 2) * 2 ^ scale := by
  refine (scaled_div (4 * significand + 2) scale).trans ?_
  push_cast
  ring

theorem lower_ofFinite (f : FloatFormat) (hpos : 0 < significand) (scale : ℤ) :
    (ofFinite f significand scale).lower =
      (significand - lowerPart f significand scale) * 2 ^ scale := by
  refine (scaled_div _ scale).trans ?_
  rw [lowerPart, Nat.pow_eq]
  split <;> rw [Nat.cast_sub (by omega)] <;> push_cast <;> ring

theorem lowerPart_mem (f : FloatFormat) (significand : ℕ) (scale : ℤ) :
    1 / 4 ≤ lowerPart f significand scale ∧ lowerPart f significand scale ≤ 1 / 2 := by
  unfold lowerPart
  split <;> norm_num

theorem lower_pos (f : FloatFormat) (hpos : 0 < significand) (scale : ℤ) :
    0 < (ofFinite f significand scale).lower := by
  have hone : (1 : ℚ) ≤ significand := by exact_mod_cast hpos
  have hpart := (lowerPart_mem f significand scale).2
  rw [lower_ofFinite f hpos]
  exact mul_pos (by linarith) (by positivity)

theorem lower_lt_center (f : FloatFormat) (hpos : 0 < significand) (scale : ℤ) :
    (ofFinite f significand scale).lower < (ofFinite f significand scale).center := by
  have hpart := (lowerPart_mem f significand scale).1
  rw [lower_ofFinite f hpos, center_ofFinite]
  gcongr
  linarith

theorem center_lt_upper (f : FloatFormat) (significand : ℕ) (scale : ℤ) :
    (ofFinite f significand scale).center < (ofFinite f significand scale).upper := by
  rw [center_ofFinite, upper_ofFinite]
  gcongr
  linarith

/-- A float is read as itself. -/
theorem contains_center (f : FloatFormat) (hpos : 0 < significand) (scale : ℤ) :
    (ofFinite f significand scale).Contains (significand * 2 ^ scale) := by
  rw [← center_ofFinite f]
  exact contains_of_lt (lower_lt_center f hpos scale) (center_lt_upper f significand scale)

/-- Sixteen digits behind the leading one make a grid finer than the interval. -/
theorem significand_lt (hf : f.fractionBits ≤ 52) (hm : significand < 2 ^ (f.fractionBits + 1))
    (scale : ℤ) :
    (significand : ℚ) < 10 ^ 16 * (1 / 2 + lowerPart f significand scale) := by
  have hbits : 2 ^ f.fractionBits ≤ 2 ^ 52 := Nat.pow_le_pow_right (by decide) hf
  unfold lowerPart
  split
  · next h =>
    have hle : (significand : ℚ) ≤ 2 ^ 52 := by exact_mod_cast h.1.trans_le hbits
    linarith
  · have hle : (significand : ℚ) ≤ 2 ^ 53 := by
      rw [pow_succ] at hm
      exact_mod_cast show significand ≤ 2 ^ 53 by omega
    linarith

theorem leadingExponent_ofFinite (hpos : 0 < significand) :
    Decimal.leadingExponent (ofFinite f significand scale).value
      (ofFinite f significand scale).den = Int.log 10 ((significand : ℚ) * 2 ^ scale) := by
  have hvalue : 0 < (ofFinite f significand scale).value :=
    Nat.mul_pos (Nat.mul_pos (by decide) hpos) (Nat.pow_pos (by decide))
  rw [Decimal.leadingExponent_eq_log hvalue (ofFinite_den_pos f significand scale)]
  exact congrArg (Int.log 10) (center_ofFinite f significand scale)

/-- Seventeen digits are enough for a float of up to 53 bits. -/
theorem exists_search (hf : f.fractionBits ≤ 52) (tie : DecimalTie) (scale : ℤ)
    (hpos : 0 < significand) (hm : significand < 2 ^ (f.fractionBits + 1)) :
    ∃ d, (ofFinite f significand scale).search tie
      (Decimal.leadingExponent (ofFinite f significand scale).value
        (ofFinite f significand scale).den) 17 1 = some d := by
  have hscale : (0 : ℚ) < 2 ^ scale := by positivity
  -- The last of the grids that are tried is fine enough; an earlier one may be too.
  refine exists_search_of_onGrid (k := 16) (by decide) (onGrid_ne_none
    (ofFinite_den_pos f significand scale) (lower_lt_center f hpos scale)
    (center_lt_upper f significand scale) ?_)
  have hfloat : (0 : ℚ) < significand * 2 ^ scale := by positivity
  have hlog : (10 : ℚ) ^ Int.log 10 ((significand : ℚ) * 2 ^ scale) ≤ significand * 2 ^ scale := by
    exact_mod_cast Int.zpow_log_le_self (b := 10) (by decide) hfloat
  rw [leadingExponent_ofFinite hpos]
  calc (10 : ℚ) ^ (Int.log 10 ((significand : ℚ) * 2 ^ scale) + 1 - (1 + 16 : ℕ))
      = 10 ^ Int.log 10 ((significand : ℚ) * 2 ^ scale) / 10 ^ 16 := by
        rw [add_comm, Nat.cast_add, Nat.cast_one, add_sub_add_left_eq_sub,
          zpow_sub₀ (by norm_num), zpow_natCast]
    _ ≤ significand * 2 ^ scale / 10 ^ 16 := by gcongr
    _ < (1 / 2 + lowerPart f significand scale) * 2 ^ scale := by
        rw [div_lt_iff₀ (by positivity)]
        have := mul_lt_mul_of_pos_right (significand_lt hf hm scale) hscale
        linarith
    _ = (ofFinite f significand scale).upper - (ofFinite f significand scale).lower := by
        rw [upper_ofFinite, lower_ofFinite f hpos]
        ring

/-- A float of which the significand was moved up by more than one bit lies inside the interval
that it had before. -/
theorem inside_shift {g : FloatFormat} {k : ℕ} (hpos : 0 < significand) (hk : 2 ≤ k) :
    (ofFinite g (significand * 2 ^ k) (scale - k)).Inside (ofFinite f significand scale) := by
  have hscale : (0 : ℚ) < 2 ^ (scale - k) := by positivity
  have hshift : (2 : ℚ) ^ scale = 2 ^ k * 2 ^ (scale - k) := by
    rw [← zpow_natCast, ← zpow_add₀ two_ne_zero, add_sub_cancel]
  have hfour : (4 : ℚ) ≤ 2 ^ k := by
    exact_mod_cast Nat.pow_le_pow_right (n := 2) (by decide) hk
  have hlower := lower_ofFinite f hpos scale
  have hlower' := lower_ofFinite g (Nat.mul_pos hpos (Nat.two_pow_pos k)) (scale - k)
  obtain ⟨hpart, -⟩ := lowerPart_mem f significand scale
  obtain ⟨-, hpart'⟩ := lowerPart_mem g (significand * 2 ^ k) (scale - k)
  refine ⟨?_, fun q hq => ?_⟩
  · rw [center_ofFinite, center_ofFinite, hshift]
    push_cast
    ring
  · obtain ⟨hlow, hhigh⟩ := hq.mem
    rw [upper_ofFinite] at hhigh
    rw [hlower'] at hlow
    push_cast at hlow hhigh
    refine contains_of_lt (lt_of_lt_of_le ?_ hlow) (lt_of_le_of_lt hhigh ?_)
    · have hgap : 1 ≤ lowerPart f significand scale * 2 ^ k := by
        calc (1 : ℚ) = 1 / 4 * 4 := by norm_num
          _ ≤ lowerPart f significand scale * 2 ^ k := by gcongr
      rw [hlower, hshift, ← mul_assoc]
      gcongr
      linarith
    · rw [upper_ofFinite, hshift, ← mul_assoc]
      gcongr
      linarith

end RoundingInterval

open RoundingInterval

variable {f g : FloatFormat} {significand k : ℕ} {scale : ℤ}

/-- The decimal that is shown for a float reads back as it. -/
theorem contains_shortestDecimal (hf : f.fractionBits ≤ 52) (tie : DecimalTie) (scale : ℤ)
    (hpos : 0 < significand) (hm : significand < 2 ^ (f.fractionBits + 1)) :
    (ofFinite f significand scale).Contains (shortestDecimal f tie significand scale).value := by
  obtain ⟨d, hd⟩ := exists_search hf tie scale hpos hm
  simp only [shortestDecimal, hd, Decimal.value_trim]
  exact contains_of_search (ofFinite_den_pos f significand scale) hd

/-- A wider format shows the same decimal for a float if that decimal still reads back. -/
theorem shortestDecimal_shift (hf : f.fractionBits ≤ 52) (tie : DecimalTie) (scale : ℤ)
    (hpos : 0 < significand) (hm : significand < 2 ^ (f.fractionBits + 1)) (hk : 2 ≤ k)
    (h : (ofFinite g (significand * 2 ^ k) (scale - k)).Contains
      (shortestDecimal f tie significand scale).value) :
    shortestDecimal g tie (significand * 2 ^ k) (scale - k) =
      shortestDecimal f tie significand scale := by
  obtain ⟨d, hd⟩ := exists_search hf tie scale hpos hm
  have hinside : (ofFinite g (significand * 2 ^ k) (scale - k)).Inside
      (ofFinite f significand scale) := inside_shift hpos hk
  have hleading : Decimal.leadingExponent (ofFinite g (significand * 2 ^ k) (scale - k)).value
      (ofFinite g (significand * 2 ^ k) (scale - k)).den =
        Decimal.leadingExponent (ofFinite f significand scale).value
          (ofFinite f significand scale).den := by
    have hvalue : ((significand * 2 ^ k : ℕ) : ℚ) * 2 ^ (scale - k) = significand * 2 ^ scale := by
      rw [← center_ofFinite g, hinside.center_eq, center_ofFinite]
    rw [leadingExponent_ofFinite (Nat.mul_pos hpos (Nat.two_pow_pos k)), hvalue,
      leadingExponent_ofFinite hpos]
  have hcontains : (ofFinite g (significand * 2 ^ k) (scale - k)).Contains d.value := by
    simpa only [shortestDecimal, hd, Decimal.value_trim] using h
  have hd' := hinside.search_eq_some (ofFinite_den_pos _ _ _) (ofFinite_den_pos _ _ _) hd hcontains
  simp only [shortestDecimal, hleading, hd, hd']

end SqlAccess

import SqlAccess.Proofs.Number.Shortest
import SqlAccess.Proofs.Number.Word

/-!
# Rounding to floats

A positive ratio is rounded to a float exactly if it lies in the rounding interval of that float
(`nearest_eq_word_iff`), and so is a decimal (`nearestDecimal_eq_word_iff`). So the decimal that is
shown for a float is read as it (`nearestDecimal_shortestDecimal`).
-/

namespace SqlAccess

/-! ## Rounding to integers -/

/-- Whether `k` is the integer nearest to `q`, or the even one of the two that are. -/
def IsNearest (k : ℕ) (q : ℚ) : Prop :=
  if k % 2 = 0 then k - 1 / 2 ≤ q ∧ q ≤ k + 1 / 2 else k - 1 / 2 < q ∧ q < k + 1 / 2

namespace IsNearest

variable {j k : ℕ} {q : ℚ}

theorem of_lt (hlow : k - 1 / 2 < q) (hhigh : q < k + 1 / 2) : IsNearest k q := by
  unfold IsNearest
  split
  · exact ⟨hlow.le, hhigh.le⟩
  · exact ⟨hlow, hhigh⟩

theorem of_even (hk : k % 2 = 0) (hlow : k - 1 / 2 ≤ q) (hhigh : q ≤ k + 1 / 2) :
    IsNearest k q := by
  rw [IsNearest, if_pos hk]
  exact ⟨hlow, hhigh⟩

theorem mem (h : IsNearest k q) : k - 1 / 2 ≤ q ∧ q ≤ k + 1 / 2 := by
  unfold IsNearest at h
  split at h
  · exact h
  · exact ⟨h.1.le, h.2.le⟩

/-- Two neighbours meet in a tie, which goes to one of them. -/
theorem not_lt (hj : IsNearest j q) (hk : IsNearest k q) : ¬ j < k := by
  intro hlt
  have hle : (j : ℚ) + 1 ≤ k := by exact_mod_cast hlt
  have hge : (k : ℚ) ≤ j + 1 := by linarith [hj.mem.2, hk.mem.1]
  obtain rfl : k = j + 1 := by exact_mod_cast le_antisymm hge hle
  have hj' := hj.mem.2
  have hk' := hk.mem.1
  unfold IsNearest at hj hk
  rcases Nat.mod_two_eq_zero_or_one j with heven | hodd
  · rw [if_neg (by omega)] at hk
    push_cast at hk
    linarith
  · rw [if_neg (by omega)] at hj
    push_cast at hk'
    linarith

theorem unique (hj : IsNearest j q) (hk : IsNearest k q) : j = k :=
  le_antisymm (Nat.le_of_not_lt (hk.not_lt hj)) (Nat.le_of_not_lt (hj.not_lt hk))

end IsNearest

namespace FloatFormat

open RoundingInterval

variable {f : FloatFormat} {k significand : ℕ} {scale t : ℤ} {q : ℚ}

theorem isNearest_roundEven {n m : ℕ} (hm : 0 < m) : IsNearest (roundEven n m) ((n : ℚ) / m) := by
  obtain ⟨hlt, heq⟩ := middle_cmp_div (n := n) hm
  have hlow : ((n / m : ℕ) : ℚ) ≤ n / m := by
    rw [← Nat.floor_div_eq_div (K := ℚ)]
    exact Nat.floor_le (by positivity)
  have hhigh : (n : ℚ) / m < (n / m : ℕ) + 1 := by
    rw [← Nat.floor_div_eq_div (K := ℚ)]
    exact Nat.lt_floor_add_one _
  simp only [roundEven, Bool.or_eq_true, decide_eq_true_iff, Bool.and_eq_true, beq_iff_eq, ← hlt,
    ← heq]
  split
  · next h =>
    obtain hup | ⟨htie, hodd⟩ := h
    · exact .of_lt (by push_cast; linarith) (by push_cast; linarith)
    · exact .of_even (by omega) (by push_cast; linarith) (by push_cast; linarith)
  · next h =>
    obtain ⟨hup, htie⟩ := not_or.1 h
    rcases lt_or_eq_of_le (not_lt.1 hup) with hdown | hmiddle
    · exact .of_lt (by linarith) hdown
    · refine .of_even ?_ (by linarith) hmiddle.le
      have : ¬ n / m % 2 = 1 := fun hodd => htie ⟨hmiddle.symm, hodd⟩
      omega

/-- `2 ^ t` is the unit in which `q` is rounded. -/
structure RoundsAt (f : FloatFormat) (q : ℚ) (t : ℤ) : Prop where
  first : f.minScale ≤ t
  high : q < 2 ^ (f.fractionBits + 1) * 2 ^ t
  low : f.minScale < t → 2 ^ f.fractionBits * 2 ^ t ≤ q

theorem roundsAt_max (f : FloatFormat) (hq : 0 < q) :
    f.RoundsAt q (max (Int.log 2 q - f.fractionBits) f.minScale) := by
  have hlow : (2 : ℚ) ^ Int.log 2 q ≤ q := by
    exact_mod_cast Int.zpow_log_le_self (b := 2) (by decide) hq
  have hhigh : q < (2 : ℚ) ^ (Int.log 2 q + 1) := by
    exact_mod_cast Int.lt_zpow_succ_log_self (b := 2) (by decide) q
  refine ⟨le_max_right _ _, hhigh.trans_le ?_, fun hlt => ?_⟩
  · rw [← zpow_natCast, ← zpow_add₀ two_ne_zero]
    exact zpow_le_zpow_right₀ one_le_two (by push_cast; omega)
  · rw [← zpow_natCast, ← zpow_add₀ two_ne_zero]
    refine le_trans (zpow_le_zpow_right₀ one_le_two ?_) hlow
    omega

theorem RoundsAt.le_pow (h : f.RoundsAt q t) (hk : IsNearest k (q / 2 ^ t)) :
    k ≤ 2 ^ (f.fractionBits + 1) := by
  have hq : q / 2 ^ t < 2 ^ (f.fractionBits + 1) := (div_lt_iff₀ (by positivity)).2 h.high
  have hlt : (k : ℚ) < (2 ^ (f.fractionBits + 1) : ℕ) + 1 := by
    push_cast
    linarith [hk.mem.1]
  exact Nat.lt_succ_iff.1 (by exact_mod_cast hlt)

theorem RoundsAt.pow_le (h : f.RoundsAt q t) (hk : IsNearest k (q / 2 ^ t))
    (ht : f.minScale < t) : 2 ^ f.fractionBits ≤ k := by
  have hq : 2 ^ f.fractionBits ≤ q / 2 ^ t := (le_div_iff₀ (by positivity)).2 (h.low ht)
  have hlt : ((2 ^ f.fractionBits : ℕ) : ℚ) < k + 1 := by
    push_cast
    linarith [hk.mem.2]
  exact Nat.lt_succ_iff.1 (by exact_mod_cast hlt)

/-- A ratio is rounded to an integer in its unit, and to infinity if that is too large. -/
theorem exists_nearest_eq {n m : ℕ} (hn : 0 < n) (hm : 0 < m) (f : FloatFormat) :
    ∃ k t, f.RoundsAt ((n : ℚ) / m) t ∧ IsNearest k ((n : ℚ) / m / 2 ^ t) ∧
      f.nearest n m = min (f.word k t) f.infinityBits := by
  have hq : (0 : ℚ) < (n : ℚ) / m := by positivity
  obtain ⟨t, ht⟩ : ∃ t, max (leadingExponent n m - f.fractionBits) f.minScale = t := ⟨_, rfl⟩
  refine ⟨roundEven (overUnit n m t).1 (overUnit n m t).2, t, ?_, ?_, ?_⟩
  · rw [← ht, leadingExponent_eq_log hn hm]
    exact roundsAt_max f hq
  · rw [← overUnit_ratio]
    exact isNearest_roundEven (overUnit_den_pos hm t)
  · simp only [nearest, if_neg hn.ne', ht, Nat.pow_eq, word]

/-! ## The interval of a float -/

/-- The interval in the unit of the float. -/
theorem contains_ofFinite_iff (hpos : 0 < significand) :
    (ofFinite f significand scale).Contains q ↔
      if significand % 2 = 0 then
        significand - lowerPart f significand scale ≤ q / 2 ^ scale ∧
          q / 2 ^ scale ≤ significand + 1 / 2
      else
        significand - lowerPart f significand scale < q / 2 ^ scale ∧
          q / 2 ^ scale < significand + 1 / 2 := by
  have hunit : (0 : ℚ) < 2 ^ scale := by positivity
  have hclosed : (ofFinite f significand scale).closed = (significand % 2 == 0) := rfl
  rw [Contains, lower_ofFinite f hpos, upper_ofFinite, hclosed, ← le_div_iff₀ hunit,
    ← div_le_iff₀ hunit, ← lt_div_iff₀ hunit, ← div_lt_iff₀ hunit]
  simp only [beq_iff_eq]

theorem isNearest_of_contains (hpos : 0 < significand)
    (h : (ofFinite f significand scale).Contains q) : IsNearest significand (q / 2 ^ scale) := by
  obtain ⟨-, hpart⟩ := lowerPart_mem f significand scale
  rw [contains_ofFinite_iff hpos] at h
  split at h
  · next heven => exact .of_even heven (by linarith) h.2
  · exact .of_lt (by linarith) h.2

theorem contains_of_isNearest (hpos : 0 < significand) (h : IsNearest significand (q / 2 ^ scale))
    (hlow : significand - lowerPart f significand scale ≤ q / 2 ^ scale)
    (hodd : significand % 2 ≠ 0 → lowerPart f significand scale = 1 / 2) :
    (ofFinite f significand scale).Contains q := by
  rw [contains_ofFinite_iff hpos]
  split
  · exact ⟨hlow, h.mem.2⟩
  · next hne =>
    rw [IsNearest, if_neg hne] at h
    rwa [hodd hne]

theorem power_even (hf : 0 < f.fractionBits) : 2 ^ f.fractionBits % 2 = 0 := by
  rw [← Nat.sub_add_cancel hf, pow_succ]
  exact Nat.mul_mod_left _ _

/-- Only powers of two have a shorter part below them, and their significand is even. -/
theorem lowerPart_cases (hf : 0 < f.fractionBits) :
    lowerPart f significand scale = 1 / 2 ∨
      lowerPart f significand scale = 1 / 4 ∧ significand = 2 ^ f.fractionBits ∧
        significand % 2 = 0 ∧ f.minScale < scale := by
  unfold lowerPart
  split
  · next h =>
    exact .inr ⟨rfl, h.1, h.1 ▸ power_even hf, h.2⟩
  · exact .inl rfl

/-- In the unit of the float the integer that is nearest decides. -/
theorem contains_iff_of_roundsAt (hf : 0 < f.fractionBits) (hpos : 0 < significand)
    (ht : f.RoundsAt q scale) (hk : IsNearest k (q / 2 ^ scale)) :
    (ofFinite f significand scale).Contains q ↔ k = significand := by
  constructor
  · intro h
    exact hk.unique (isNearest_of_contains hpos h)
  · rintro rfl
    obtain hhalf | ⟨hquarter, hpower, heven, hscale⟩ := lowerPart_cases (f := f) hf
    · exact contains_of_isNearest hpos hk (by rw [hhalf]; exact hk.mem.1) fun _ => hhalf
    · refine contains_of_isNearest hpos hk ?_ fun hodd => absurd heven hodd
      have hlow : (k : ℚ) ≤ q / 2 ^ scale := by
        rw [le_div_iff₀ (by positivity), hpower]
        exact_mod_cast ht.low hscale
      linarith [(lowerPart_mem f k scale).1]

/-- What lies in the interval of a float and is rounded in a finer unit lies below a power of two,
and is rounded to twice that power's significand. -/
theorem eq_of_contains_of_lt (h : f.IsFloat significand scale) (hpos : 0 < significand)
    (ht : f.RoundsAt q t) (hk : IsNearest k (q / 2 ^ t)) (hlt : t < scale)
    (hcontains : (ofFinite f significand scale).Contains q) :
    scale = t + 1 ∧ significand = 2 ^ f.fractionBits ∧ k = 2 ^ (f.fractionBits + 1) := by
  have hunit : (0 : ℚ) < 2 ^ t := by positivity
  have hscale : f.minScale < scale := ht.first.trans_lt hlt
  have hone : (1 : ℚ) ≤ significand := by exact_mod_cast hpos
  have hleading : (2 : ℚ) ^ f.fractionBits ≤ significand := by exact_mod_cast h.low hscale
  obtain ⟨-, hpart⟩ := lowerPart_mem f significand scale
  have hhigh : q / 2 ^ t < 2 * 2 ^ f.fractionBits := by
    rw [div_lt_iff₀ hunit, ← pow_succ']
    exact ht.high
  obtain ⟨j, hj⟩ := Int.eq_ofNat_of_zero_le (sub_nonneg.2 hlt.le)
  have hshift : (2 : ℚ) ^ scale = 2 ^ j * 2 ^ t := by
    rw [← zpow_natCast, ← zpow_add₀ two_ne_zero, ← hj, sub_add_cancel]
  have hlow : (significand - lowerPart f significand scale) * 2 ^ j ≤ q / 2 ^ t := by
    have hmem := hcontains.mem.1
    rwa [lower_ofFinite f hpos, hshift, ← mul_assoc, ← le_div_iff₀ hunit] at hmem
  have htwo : (2 : ℚ) ≤ 2 ^ j := by
    calc (2 : ℚ) = 2 ^ 1 := (pow_one 2).symm
      _ ≤ 2 ^ j := pow_le_pow_right₀ one_le_two (by omega)
  have hpower : significand = 2 ^ f.fractionBits := by
    have hlt' : (significand : ℚ) < (2 ^ f.fractionBits : ℕ) + 1 := by
      push_cast
      nlinarith
    exact le_antisymm (Nat.lt_succ_iff.1 (by exact_mod_cast hlt')) (h.low hscale)
  have hquarter : lowerPart f significand scale = 1 / 4 := if_pos ⟨hpower, hscale⟩
  rw [hquarter] at hlow
  have hj : j = 1 := by
    by_contra hne
    have hfour : (4 : ℚ) ≤ 2 ^ j := by
      calc (4 : ℚ) = 2 ^ 2 := by norm_num
        _ ≤ 2 ^ j := pow_le_pow_right₀ one_le_two (by omega)
    nlinarith
  rw [hj] at hlow
  have hnearest : IsNearest (2 ^ (f.fractionBits + 1)) (q / 2 ^ t) := by
    refine .of_even (by rw [pow_succ]; exact Nat.mul_mod_left _ _) ?_ ?_ <;>
      push_cast <;> rw [pow_succ] <;> linarith
  exact ⟨by omega, hpower, hk.unique hnearest⟩

theorem contains_of_double (hf : 0 < f.fractionBits) (ht : f.minScale ≤ t)
    (hk : IsNearest (2 ^ (f.fractionBits + 1)) (q / 2 ^ t)) :
    (ofFinite f (2 ^ f.fractionBits) (t + 1)).Contains q := by
  have hquarter : lowerPart f (2 ^ f.fractionBits) (t + 1) = 1 / 4 :=
    if_pos ⟨rfl, Int.lt_add_one_of_le ht⟩
  have hhalf : q / 2 ^ (t + 1) = q / 2 ^ t / 2 := by rw [zpow_add_one₀ two_ne_zero, div_div]
  obtain ⟨hlow, hhigh⟩ := hk.mem
  push_cast at hlow hhigh
  rw [pow_succ] at hlow hhigh
  refine contains_of_isNearest (Nat.two_pow_pos _) (.of_lt ?_ ?_) ?_
    fun hodd => absurd (power_even hf) hodd
  all_goals
    rw [hhalf]
    push_cast
    linarith

theorem word_eq_iff_of_lt (h : f.IsFloat significand scale) (ht : f.minScale ≤ t)
    (hk : k ≤ 2 ^ (f.fractionBits + 1)) (hlt : t < scale) :
    f.word k t = f.word significand scale ↔
      scale = t + 1 ∧ significand = 2 ^ f.fractionBits ∧ k = 2 ^ (f.fractionBits + 1) := by
  have hlow := h.low (ht.trans_lt hlt)
  obtain ⟨j, hj⟩ := Int.eq_ofNat_of_zero_le (sub_nonneg.2 hlt.le)
  have hplace : (scale - f.minScale).toNat = (t - f.minScale).toNat + j := by omega
  rw [pow_succ] at hk ⊢
  rw [word, word, hplace, add_mul]
  constructor
  · intro heq
    have hmul : (j + 1) * 2 ^ f.fractionBits ≤ 2 * 2 ^ f.fractionBits := by
      rw [add_one_mul]
      omega
    have hle := Nat.le_of_mul_le_mul_right hmul (Nat.two_pow_pos _)
    obtain rfl : j = 1 := by omega
    omega
  · rintro ⟨hnext, rfl, rfl⟩
    obtain rfl : j = 1 := by omega
    ring

/-- Nothing that is rounded in a coarser unit lies in the interval of a float. -/
theorem not_contains_of_lt (h : f.IsFloat significand scale) (ht : f.RoundsAt q t)
    (hlt : scale < t) : ¬ (ofFinite f significand scale).Contains q := by
  intro hcontains
  have hunit : (0 : ℚ) < 2 ^ scale := by positivity
  have hhigh : (significand : ℚ) + 1 ≤ 2 ^ (f.fractionBits + 1) := by exact_mod_cast h.high
  have hupper := hcontains.mem.2
  have hlow := ht.low (h.first.trans_lt hlt)
  have hdouble : (2 : ℚ) * 2 ^ scale ≤ 2 ^ t := by
    rw [← zpow_one_add₀ two_ne_zero]
    exact zpow_le_zpow_right₀ one_le_two (by omega)
  rw [upper_ofFinite] at hupper
  have : (2 : ℚ) ^ (f.fractionBits + 1) * 2 ^ scale ≤ (significand + 1 / 2) * 2 ^ scale := by
    calc (2 : ℚ) ^ (f.fractionBits + 1) * 2 ^ scale = 2 ^ f.fractionBits * (2 * 2 ^ scale) := by
          rw [pow_succ, mul_assoc]
      _ ≤ 2 ^ f.fractionBits * 2 ^ t := by gcongr
      _ ≤ q := hlow
      _ ≤ (significand + 1 / 2) * 2 ^ scale := hupper
  linarith [le_of_mul_le_mul_right this hunit]

theorem word_ne_of_lt (h : f.IsFloat significand scale) (hk : 2 ^ f.fractionBits ≤ k)
    (hlt : scale < t) : f.word k t ≠ f.word significand scale := by
  intro heq
  have hhigh := h.high
  have hfirst := h.first
  have hplace : (scale - f.minScale).toNat + 1 ≤ (t - f.minScale).toNat := by omega
  have hmul := Nat.mul_le_mul_right (2 ^ f.fractionBits) hplace
  rw [add_one_mul] at hmul
  rw [pow_succ] at hhigh
  rw [word, word] at heq
  omega

/-- A positive ratio is rounded to a float exactly if it lies in its interval. -/
theorem nearest_eq_word_iff (hf : 0 < f.fractionBits) (h : f.IsFloat significand scale)
    (hpos : 0 < significand) {n m : ℕ} (hn : 0 < n) (hm : 0 < m) :
    f.nearest n m = f.word significand scale ↔
      (ofFinite f significand scale).Contains ((n : ℚ) / m) := by
  obtain ⟨k, t, ht, hk, hnearest⟩ := exists_nearest_eq hn hm f
  have hword : f.nearest n m = f.word significand scale ↔
      f.word k t = f.word significand scale := by
    have hlt := h.word_lt_infinityBits
    omega
  rw [hword]
  rcases lt_trichotomy t scale with hlt | rfl | hlt
  · rw [word_eq_iff_of_lt h ht.first (ht.le_pow hk) hlt]
    refine ⟨?_, eq_of_contains_of_lt h hpos ht hk hlt⟩
    rintro ⟨rfl, rfl, rfl⟩
    exact contains_of_double hf ht.first hk
  · rw [contains_iff_of_roundsAt hf hpos ht hk, word, word, Nat.add_left_cancel_iff]
  · exact iff_of_false (word_ne_of_lt h (ht.pow_le hk (h.first.trans_lt hlt)) hlt)
      (not_contains_of_lt h ht hlt)

/-! ## Reading decimals -/

/-- The powers that a decimal is not raised to lie far from all floats. -/
theorem two_pow_lt_ten_pow : (2 : ℚ) ^ 1300 < 10 ^ 400 := by
  calc (2 : ℚ) ^ 1300 = (2 ^ 13) ^ 100 := by rw [← pow_mul]
    _ < (10 ^ 4) ^ 100 := pow_lt_pow_left₀ (by norm_num) (by norm_num) (by decide)
    _ = 10 ^ 400 := by rw [← pow_mul]

/-- Whether all floats of the format lie between the powers of ten from the `-400`th to the
`400`th, with a margin. -/
structure IsModerate (f : FloatFormat) : Prop where
  fraction : 0 < f.fractionBits
  least : -1299 ≤ f.minScale
  greatest : f.minScale + (2 ^ f.exponentBits : ℕ) + f.fractionBits ≤ 1302

theorem IsModerate.interval_mem (hf : f.IsModerate) (h : f.IsFloat significand scale)
    (hpos : 0 < significand) :
    (10 : ℚ) ^ (-400 : ℤ) < (ofFinite f significand scale).lower ∧
      (ofFinite f significand scale).upper < 10 ^ (400 : ℤ) := by
  have hunit : (0 : ℚ) < 2 ^ scale := by positivity
  have hone : (1 : ℚ) ≤ significand := by exact_mod_cast hpos
  have hpart := (lowerPart_mem f significand scale).2
  obtain ⟨-, hleast, hgreatest⟩ := hf
  obtain ⟨hhigh, -, hfirst, hlast⟩ := h
  constructor
  · have hscale : (2 : ℚ) ^ (-1300 : ℤ) ≤ 2 ^ (scale - 1) :=
      zpow_le_zpow_right₀ one_le_two (by omega)
    calc (10 : ℚ) ^ (-400 : ℤ) < 2 ^ (-1300 : ℤ) := by
          rw [zpow_neg, zpow_neg]
          exact inv_strictAnti₀ (by positivity) (by exact_mod_cast two_pow_lt_ten_pow)
      _ ≤ 2 ^ (scale - 1) := hscale
      _ = 1 / 2 * 2 ^ scale := by rw [zpow_sub_one₀ two_ne_zero]; ring
      _ ≤ (ofFinite f significand scale).lower := by
          rw [lower_ofFinite f hpos]
          gcongr
          linarith
  · have hhigh' : (significand : ℚ) + 1 ≤ 2 ^ (f.fractionBits + 1) := by exact_mod_cast hhigh
    calc (ofFinite f significand scale).upper ≤ 2 ^ (f.fractionBits + 1) * 2 ^ scale := by
          rw [upper_ofFinite]
          gcongr
          linarith
      _ = 2 ^ ((f.fractionBits + 1 : ℕ) + scale) := by
          rw [zpow_add₀ two_ne_zero, zpow_natCast]
      _ ≤ 2 ^ (1300 : ℤ) := zpow_le_zpow_right₀ one_le_two (by push_cast; omega)
      _ < 10 ^ (400 : ℤ) := by exact_mod_cast two_pow_lt_ten_pow

theorem nearest_le_infinityBits (f : FloatFormat) (n m : ℕ) : f.nearest n m ≤ f.infinityBits := by
  unfold nearest
  split
  · exact Nat.zero_le _
  · exact min_le_right _ _

theorem nearestDecimal_le_infinityBits (f : FloatFormat) (digits : ℕ) (exponent : ℤ) :
    f.nearestDecimal digits exponent ≤ f.infinityBits := by
  simp only [nearestDecimal]
  split_ifs
  · exact Nat.zero_le _
  · exact le_rfl
  · exact Nat.zero_le _
  · exact nearest_le_infinityBits _ _ _
  · exact nearest_le_infinityBits _ _ _

/-- Within the limits beyond which no power is formed a decimal is read as a ratio. -/
theorem nearestDecimal_eq_nearest {d : Decimal} (hd : 0 < d.digits)
    (hlow : ¬ d.exponent + Decimal.digitCount d.digits < -400)
    (hhigh : ¬ 400 < d.exponent + Decimal.digitCount d.digits) :
    ∃ n m : ℕ, 0 < n ∧ 0 < m ∧ (n : ℚ) / m = d.value ∧
      f.nearestDecimal d.digits d.exponent = f.nearest n m := by
  have hdecimal : f.nearestDecimal d.digits d.exponent =
      if 0 ≤ d.exponent then f.nearest (d.digits * Nat.pow 10 d.exponent.toNat) 1
      else f.nearest d.digits (Nat.pow 10 (-d.exponent).toNat) := by
    rw [nearestDecimal, if_neg hd.ne']
    exact (if_neg hhigh).trans (if_neg hlow)
  rw [hdecimal]
  split
  · next h =>
    refine ⟨_, 1, Nat.mul_pos hd (Nat.pow_pos (by decide)), Nat.one_pos, ?_, rfl⟩
    obtain ⟨k, hk⟩ := Int.eq_ofNat_of_zero_le h
    rw [Decimal.value, hk]
    simp
  · next h =>
    refine ⟨_, _, hd, Nat.pow_pos (by decide), ?_, rfl⟩
    obtain ⟨k, hk⟩ : ∃ k : ℕ, d.exponent = -k := ⟨(-d.exponent).toNat, by omega⟩
    rw [Decimal.value, hk]
    simp [div_eq_mul_inv]

/-- A decimal is read as a float exactly if it lies in its interval. -/
theorem nearestDecimal_eq_word_iff (hf : f.IsModerate) (h : f.IsFloat significand scale)
    (hpos : 0 < significand) (d : Decimal) :
    f.nearestDecimal d.digits d.exponent = f.word significand scale ↔
      (ofFinite f significand scale).Contains d.value := by
  obtain ⟨hlower, hupper⟩ := hf.interval_mem h hpos
  rcases Nat.eq_zero_or_pos d.digits with hzero | hd
  · refine iff_of_false ?_ fun hc => ?_
    · rw [nearestDecimal, if_pos hzero, word]
      omega
    · have hmem := hc.mem.1
      have hlow := lower_pos f hpos scale
      rw [Decimal.value, hzero, Nat.cast_zero, zero_mul] at hmem
      linarith
  obtain ⟨hlow, hhigh⟩ := Decimal.value_mem hd
  by_cases hgreat : 400 < d.exponent + Decimal.digitCount d.digits
  · refine iff_of_false ?_ fun hc => ?_
    · have hinfinity : f.nearestDecimal d.digits d.exponent = f.infinityBits := by
        rw [nearestDecimal, if_neg hd.ne']
        exact if_pos hgreat
      rw [hinfinity]
      exact h.word_lt_infinityBits.ne'
    · have hten : (10 : ℚ) ^ (400 : ℤ) ≤ 10 ^ (d.exponent + Decimal.digitCount d.digits - 1) :=
        zpow_le_zpow_right₀ (by norm_num) (by omega)
      linarith [hc.mem.2]
  by_cases hsmall : d.exponent + Decimal.digitCount d.digits < -400
  · refine iff_of_false ?_ fun hc => ?_
    · have hzero : f.nearestDecimal d.digits d.exponent = 0 := by
        rw [nearestDecimal, if_neg hd.ne']
        exact (if_neg hgreat).trans (if_pos hsmall)
      rw [hzero, word]
      omega
    · have hten : (10 : ℚ) ^ (d.exponent + Decimal.digitCount d.digits) ≤ 10 ^ (-400 : ℤ) :=
        zpow_le_zpow_right₀ (by norm_num) (by omega)
      linarith [hc.mem.1]
  obtain ⟨n, m, hn, hm, hvalue, hnearest⟩ := nearestDecimal_eq_nearest (f := f) hd hsmall hgreat
  rw [hnearest, nearest_eq_word_iff hf.fraction h hpos hn hm, hvalue]

/-- The decimal that is shown for a float is read as it. -/
theorem nearestDecimal_shortestDecimal (hf : f.IsModerate) (hbits : f.fractionBits ≤ 52)
    (h : f.IsFloat significand scale) (hpos : 0 < significand) (tie : DecimalTie) :
    f.nearestDecimal (shortestDecimal f tie significand scale).digits
      (shortestDecimal f tie significand scale).exponent = f.word significand scale :=
  (nearestDecimal_eq_word_iff hf h hpos _).2
    (contains_shortestDecimal hbits tie scale hpos h.high)

theorem isModerate_binary64 : binary64.IsModerate :=
  ⟨by decide, by decide, by decide⟩

end FloatFormat

namespace Binary64

open FloatFormat RoundingInterval

variable {x : Binary64} {negative : Bool} {significand : ℕ} {scale : ℤ}

/-- A decimal is read as a float of 64 bits exactly if it lies in its interval. -/
theorem ofDecimal?_eq_some_iff (h : x.datum = .finite negative significand scale)
    (hpos : 0 < significand) (d : Decimal) :
    ofDecimal? negative d.digits d.exponent = some x ↔
      (ofFinite binary64 significand scale).Contains d.value := by
  have hbits : x.bits.toNat < 2 * binary64.signWeight := x.bits.toNat_lt
  have hfloat := (isFloat_of_decode (by decide) h).1
  have hsigned := signed_of_decode (by decide) hbits h
  rw [← nearestDecimal_eq_word_iff isModerate_binary64 hfloat hpos]
  simp only [ofDecimal?]
  constructor
  · intro hx
    split at hx
    · cases hx
    · have hlt : binary64.signed negative (binary64.nearestDecimal d.digits d.exponent) <
          2 * binary64.signWeight :=
        signed_lt ((nearestDecimal_le_infinityBits _ _ _).trans_lt
          (infinityBits_add_lt (Nat.two_pow_pos _)))
      rw [← signed_inj (f := binary64), hsigned, ← Option.some.inj hx]
      exact (UInt64.toNat_ofNat_of_lt' hlt).symm
  · intro hword
    rw [hword, if_neg hfloat.word_lt_infinityBits.ne, hsigned, UInt64.ofNat_toNat]

/-- A float of 64 bits comes back from the decimal that is shown for it. -/
theorem ofDecimal?_shortestDecimal (h : x.datum = .finite negative significand scale)
    (hpos : 0 < significand) (tie : DecimalTie) :
    ofDecimal? negative (shortestDecimal binary64 tie significand scale).digits
      (shortestDecimal binary64 tie significand scale).exponent = some x :=
  (ofDecimal?_eq_some_iff h hpos _).2
    (contains_shortestDecimal le_rfl tie scale hpos (isFloat_of_decode (by decide) h).1.high)

end Binary64

end SqlAccess

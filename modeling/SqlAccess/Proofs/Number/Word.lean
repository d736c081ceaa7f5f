import Mathlib.Algebra.Order.Ring.Int
import Mathlib.Tactic.Positivity
import SqlAccess.Number.Binary

/-!
# Words of floats

The fields of a word and what they stand for. Which significands and scales there are is
`FloatFormat.IsFloat`; the word of such a float, its sign apart, is linear in both
(`IsFloat.decode_word`, `signed_of_decode`).
-/

namespace SqlAccess

namespace FloatFormat

variable {f : FloatFormat} {negative : Bool} {magnitude significand : ℕ} {scale : ℤ}

/-! ## Fields -/

theorem signWeight_eq (f : FloatFormat) :
    f.signWeight = 2 ^ f.exponentBits * 2 ^ f.fractionBits := by
  rw [signWeight, Nat.pow_eq, pow_add]

theorem sign_signed (h : magnitude < f.signWeight) :
    (f.signed negative magnitude / f.signWeight % 2 == 1) = negative := by
  have hw : 0 < f.signWeight := Nat.zero_lt_of_lt h
  cases negative with
  | false => simp [signed, Nat.div_eq_of_lt h]
  | true => simp [signed, Nat.add_div_left _ hw, Nat.div_eq_of_lt h]

theorem signed_mod (h : magnitude < f.signWeight) :
    f.signed negative magnitude % f.signWeight = magnitude := by
  cases negative with
  | false => simp [signed, Nat.mod_eq_of_lt h]
  | true => simp [signed, Nat.add_mod_left, Nat.mod_eq_of_lt h]

theorem signed_lt (h : magnitude < f.signWeight) :
    f.signed negative magnitude < 2 * f.signWeight := by
  unfold signed
  split <;> omega

/-- What a word with these fields stands for. -/
theorem decode_signed {exponent fraction : ℕ} (he : exponent < 2 ^ f.exponentBits)
    (hf : fraction < 2 ^ f.fractionBits) :
    f.decode (f.signed negative (exponent * 2 ^ f.fractionBits + fraction)) =
      if exponent = 2 ^ f.exponentBits - 1 then
        if fraction = 0 then .infinite negative else .nan negative fraction
      else if exponent = 0 then .finite negative fraction f.minScale
      else .finite negative (fraction + 2 ^ f.fractionBits) (f.minScale + exponent - 1) := by
  have hw : exponent * 2 ^ f.fractionBits + fraction < f.signWeight := by
    rw [signWeight_eq]
    calc exponent * 2 ^ f.fractionBits + fraction < (exponent + 1) * 2 ^ f.fractionBits := by
          rw [add_one_mul]
          omega
      _ ≤ 2 ^ f.exponentBits * 2 ^ f.fractionBits := Nat.mul_le_mul_right _ he
  have hdiv : (exponent * 2 ^ f.fractionBits + fraction) / 2 ^ f.fractionBits = exponent := by
    rw [Nat.add_comm, Nat.add_mul_div_right _ _ (by positivity), Nat.div_eq_of_lt hf, zero_add]
  have hmod : (exponent * 2 ^ f.fractionBits + fraction) % 2 ^ f.fractionBits = fraction := by
    rw [Nat.mul_add_mod_self_right, Nat.mod_eq_of_lt hf]
  simp only [decode, Nat.pow_eq, sign_signed hw, signed_mod hw, hdiv, hmod]

theorem decode_infinityBits_add {fraction : ℕ} (hf : fraction < 2 ^ f.fractionBits) :
    f.decode (f.signed negative (f.infinityBits + fraction)) =
      if fraction = 0 then .infinite negative else .nan negative fraction := by
  have hlast : 2 ^ f.exponentBits - 1 < 2 ^ f.exponentBits :=
    Nat.sub_lt (Nat.two_pow_pos f.exponentBits) Nat.one_pos
  rw [infinityBits, Nat.pow_eq, Nat.pow_eq, decode_signed hlast hf, if_pos rfl]

theorem infinityBits_add_lt {fraction : ℕ} (hf : fraction < 2 ^ f.fractionBits) :
    f.infinityBits + fraction < f.signWeight := by
  obtain ⟨e, he⟩ := Nat.exists_eq_succ_of_ne_zero (Nat.two_pow_pos f.exponentBits).ne'
  rw [signWeight_eq, infinityBits, Nat.pow_eq, Nat.pow_eq, he, Nat.succ_sub_one, Nat.succ_mul]
  omega

theorem exponent_lt (f : FloatFormat) (bits : ℕ) :
    bits % f.signWeight / 2 ^ f.fractionBits < 2 ^ f.exponentBits := by
  have hlt : bits % f.signWeight < f.signWeight := Nat.mod_lt _ (by rw [signWeight_eq]; positivity)
  rw [signWeight_eq] at hlt ⊢
  exact (Nat.div_lt_iff_lt_mul (by positivity)).2 hlt

theorem fraction_lt (f : FloatFormat) (bits : ℕ) :
    bits % f.signWeight % 2 ^ f.fractionBits < 2 ^ f.fractionBits :=
  Nat.mod_lt _ (by positivity)

theorem payload_lt_of_decode {bits payload : ℕ} (h : f.decode bits = .nan negative payload) :
    0 < payload ∧ payload < 2 ^ f.fractionBits := by
  have hfraction := f.fraction_lt bits
  simp only [decode, Nat.pow_eq] at h
  split at h
  · split at h
    · cases h
    · next hne =>
      cases h
      exact ⟨Nat.pos_of_ne_zero hne, hfraction⟩
  · split at h <;> cases h

/-! ## Finite floats -/

/-- The significands and scales of the finite floats. All but those of the first scale have their
leading bit in front of the fraction. -/
structure IsFloat (f : FloatFormat) (significand : ℕ) (scale : ℤ) : Prop where
  high : significand < 2 ^ (f.fractionBits + 1)
  low : f.minScale < scale → 2 ^ f.fractionBits ≤ significand
  first : f.minScale ≤ scale
  last : scale + 3 ≤ f.minScale + (2 ^ f.exponentBits : ℕ)

/-- The word of `significand * 2 ^ scale`, its sign apart. The leading bit counts towards the
exponent. -/
def word (f : FloatFormat) (significand : ℕ) (scale : ℤ) : ℕ :=
  (scale - f.minScale).toNat * 2 ^ f.fractionBits + significand

namespace IsFloat

theorem word_lt_infinityBits (h : f.IsFloat significand scale) :
    f.word significand scale < f.infinityBits := by
  obtain ⟨hhigh, -, hfirst, hlast⟩ := h
  have hplace : (scale - f.minScale).toNat + 2 ≤ 2 ^ f.exponentBits - 1 := by omega
  rw [word, infinityBits, Nat.pow_eq, Nat.pow_eq]
  calc (scale - f.minScale).toNat * 2 ^ f.fractionBits + significand
      < (scale - f.minScale).toNat * 2 ^ f.fractionBits + 2 ^ (f.fractionBits + 1) := by omega
    _ = ((scale - f.minScale).toNat + 2) * 2 ^ f.fractionBits := by rw [add_mul, pow_succ']
    _ ≤ (2 ^ f.exponentBits - 1) * 2 ^ f.fractionBits := Nat.mul_le_mul_right _ hplace

theorem decode_word (h : f.IsFloat significand scale) :
    f.decode (f.signed negative (f.word significand scale)) =
      .finite negative significand scale := by
  obtain ⟨hhigh, hlow, hfirst, hlast⟩ := h
  rw [pow_succ] at hhigh
  rcases Nat.lt_or_ge significand (2 ^ f.fractionBits) with hsmall | hnormal
  · -- Without the leading bit the scale is the first one.
    obtain rfl : scale = f.minScale := by
      by_contra hne
      have := hlow (by omega)
      omega
    have hword : f.word significand f.minScale = 0 * 2 ^ f.fractionBits + significand := by
      rw [word, sub_self, Int.toNat_zero]
    rw [hword, decode_signed (by omega) hsmall, if_neg (by omega), if_pos rfl]
  · have hword : f.word significand scale =
        ((scale - f.minScale).toNat + 1) * 2 ^ f.fractionBits +
          (significand - 2 ^ f.fractionBits) := by
      rw [word, add_one_mul]
      omega
    rw [hword, decode_signed (by omega) (by omega), if_neg (by omega), if_neg (by omega)]
    congr 1
    · omega
    · push_cast
      omega

end IsFloat

/-- What a finite word stands for is a float, and the word is its word. -/
theorem isFloat_of_decode (he : 2 ≤ f.exponentBits) {bits : ℕ}
    (h : f.decode bits = .finite negative significand scale) :
    f.IsFloat significand scale ∧ bits % f.signWeight = f.word significand scale ∧
      (bits / f.signWeight % 2 == 1) = negative := by
  have hfraction := f.fraction_lt bits
  have hexponent := f.exponent_lt bits
  have hfour : 2 ^ 2 ≤ 2 ^ f.exponentBits := Nat.pow_le_pow_right (by decide) he
  have hfields := Nat.div_add_mod' (bits % f.signWeight) (2 ^ f.fractionBits)
  simp only [decode, Nat.pow_eq] at h
  generalize bits % f.signWeight % 2 ^ f.fractionBits = fraction at h hfraction hfields
  generalize bits % f.signWeight / 2 ^ f.fractionBits = exponent at h hexponent hfields
  split at h
  · split at h <;> cases h
  · split at h
    · next hzero =>
      cases h
      refine ⟨⟨?_, fun hlt => absurd hlt (lt_irrefl _), le_rfl, by omega⟩, ?_, rfl⟩
      · rw [pow_succ]
        omega
      · rw [word, sub_self, Int.toNat_zero, ← hfields, hzero]
    · next hlast hpos =>
      cases h
      obtain ⟨e, rfl⟩ := Nat.exists_eq_succ_of_ne_zero hpos
      have hplace : (f.minScale + (e.succ : ℕ) - 1 - f.minScale).toNat = e := by omega
      refine ⟨⟨?_, fun _ => by omega, by omega, by omega⟩, ?_, rfl⟩
      · rw [pow_succ]
        omega
      · rw [word, hplace, ← hfields, Nat.succ_mul]
        omega

theorem signed_of_decode (he : 2 ≤ f.exponentBits) {bits : ℕ} (hbits : bits < 2 * f.signWeight)
    (h : f.decode bits = .finite negative significand scale) :
    f.signed negative (f.word significand scale) = bits := by
  obtain ⟨-, hword, hsign⟩ := isFloat_of_decode he h
  have hdiv := Nat.div_add_mod bits f.signWeight
  have hquot : bits / f.signWeight < 2 := Nat.div_lt_of_lt_mul (Nat.mul_comm 2 _ ▸ hbits)
  rw [← hword, ← hsign, signed]
  obtain hq | hq := Nat.le_one_iff_eq_zero_or_eq_one.1 (Nat.lt_succ_iff.1 hquot)
  all_goals
    rw [hq] at hdiv ⊢
    simpa using hdiv

theorem signed_inj {word word' : ℕ} :
    f.signed negative word = f.signed negative word' ↔ word = word' := by
  cases negative <;> simp [signed]

end FloatFormat

end SqlAccess

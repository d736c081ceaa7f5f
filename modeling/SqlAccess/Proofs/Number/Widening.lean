import SqlAccess.Proofs.Number.Rounding

/-!
# Widening

A float of one format is encoded in another by way of what it stands for. In a format that has room
for all numbers of the first a finite number keeps its value, so that nothing is rounded
(`Embeds.decode_encodeFrom`); NaNs, infinities and zeros stay what they are. Floats of 32 bits in
64 are the case that the values need.
-/

namespace SqlAccess

namespace FloatFormat

variable {f g : FloatFormat} {negative : Bool} {significand : ℕ} {scale : ℤ}

theorem encodeFrom_finite (f g : FloatFormat) (negative : Bool) (significand : ℕ) (scale : ℤ) :
    encodeFrom f g (.finite negative significand scale) =
      g.signed negative (g.nearest (overUnit significand 1 (-scale)).1
        (overUnit significand 1 (-scale)).2) := rfl

/-- What a NaN keeps of its payload, made quiet. -/
theorem quiet_lt_pow {payload : ℕ} (hg : 0 < g.fractionBits) (h : payload < 2 ^ f.fractionBits) :
    payload * 2 ^ g.fractionBits / 2 ^ f.fractionBits ||| 2 ^ (g.fractionBits - 1) <
      2 ^ g.fractionBits := by
  refine Nat.or_lt_two_pow ?_ (Nat.pow_lt_pow_right (by decide) (by omega))
  rw [Nat.div_lt_iff_lt_mul (Nat.two_pow_pos _), Nat.mul_comm]
  exact Nat.mul_lt_mul_of_pos_left h (Nat.two_pow_pos _)

theorem encodeFrom_lt {bits : ℕ} (hg : 0 < g.fractionBits) :
    encodeFrom f g (f.decode bits) < 2 * g.signWeight := by
  have hinfinity : g.infinityBits < g.signWeight := infinityBits_add_lt (Nat.two_pow_pos _)
  cases hd : f.decode bits with
  | nan negative payload =>
    exact signed_lt (infinityBits_add_lt (quiet_lt_pow hg (payload_lt_of_decode hd).2))
  | infinite negative => exact signed_lt hinfinity
  | finite negative significand scale =>
    exact signed_lt ((nearest_le_infinityBits _ _ _).trans_lt hinfinity)

/-- A NaN stays one, as its quiet bit keeps the payload from being zero. -/
theorem decode_encodeFrom_nan {payload : ℕ} (hg : 0 < g.fractionBits)
    (h : payload < 2 ^ f.fractionBits) :
    ∃ payload', g.decode (encodeFrom f g (.nan negative payload)) = .nan negative payload' := by
  refine ⟨_, (decode_infinityBits_add (quiet_lt_pow hg h)).trans (if_neg fun hzero => ?_)⟩
  exact (Nat.two_pow_pos _).ne' (Nat.or_eq_zero_iff.1 hzero).2

theorem decode_encodeFrom_infinite :
    g.decode (encodeFrom f g (.infinite negative)) = .infinite negative :=
  (decode_infinityBits_add (Nat.two_pow_pos _)).trans (if_pos rfl)

/-- Whether every positive number of `f` has a place among the floats of `g` that have their
leading bit. -/
structure Embeds (f g : FloatFormat) : Prop where
  two_le_exponentBits : 2 ≤ f.exponentBits
  fractionBits_le : f.fractionBits ≤ g.fractionBits
  first_le : g.minScale + g.fractionBits ≤ f.minScale
  last_le : f.minScale + (2 ^ f.exponentBits : ℕ) ≤ g.minScale + (2 ^ g.exponentBits : ℕ)

namespace Embeds

theorem isFloat_zero (hembeds : f.Embeds g) : g.IsFloat 0 g.minScale := by
  obtain ⟨hexponent, hfraction, hfirst, hlast⟩ := hembeds
  have hfour : 2 ^ 2 ≤ 2 ^ f.exponentBits := Nat.pow_le_pow_right (by decide) hexponent
  exact ⟨Nat.two_pow_pos _, fun hlt => absurd hlt (lt_irrefl _), le_rfl, by omega⟩

theorem decode_encodeFrom_zero (hembeds : f.Embeds g) (scale : ℤ) :
    g.decode (encodeFrom f g (.finite negative 0 scale)) = .finite negative 0 g.minScale := by
  have hzero : (overUnit 0 1 (-scale)).1 = 0 := by
    unfold overUnit
    split <;> simp
  have hdecode : g.decode (g.signed negative (g.word 0 g.minScale)) =
      .finite negative 0 g.minScale := hembeds.isFloat_zero.decode_word
  have hword : g.word 0 g.minScale = 0 := by simp [word]
  rw [hword] at hdecode
  rwa [encodeFrom_finite, hzero, nearest, if_pos rfl]

/-- With its leading bit moved to where it stands in `g`, a positive number of `f` is one of `g`. -/
theorem isFloat (hembeds : f.Embeds g) {k : ℕ} (h : f.IsFloat significand scale)
    (hpos : 0 < significand) (hk : g.fractionBits = significand.log2 + k) :
    g.IsFloat (significand * 2 ^ k) (scale - k) := by
  obtain ⟨-, hfraction, hfirst, hlast⟩ := hembeds
  obtain ⟨-, -, hfirst', hlast'⟩ := h
  have hlow : 2 ^ significand.log2 ≤ significand := Nat.log2_self_le hpos.ne'
  have hhigh : significand < 2 ^ (significand.log2 + 1) := Nat.lt_log2_self
  refine ⟨?_, fun _ => ?_, by omega, by omega⟩
  · rw [hk, add_right_comm, pow_add]
    exact Nat.mul_lt_mul_of_pos_right hhigh (Nat.two_pow_pos k)
  · rw [hk, pow_add]
    exact Nat.mul_le_mul_right _ hlow

/-- A positive finite number keeps its value in a wider format: its significand is moved up to all
the bits that there are. -/
theorem decode_encodeFrom (hembeds : f.Embeds g) (hg : 0 < g.fractionBits)
    (h : f.IsFloat significand scale) (hpos : 0 < significand) :
    ∃ k : ℕ, g.fractionBits ≤ f.fractionBits + k ∧
      g.decode (encodeFrom f g (.finite negative significand scale)) =
        .finite negative (significand * 2 ^ k) (scale - k) := by
  have hlog : significand.log2 ≤ f.fractionBits :=
    Nat.lt_succ_iff.1 ((Nat.log2_lt hpos.ne').2 h.high)
  obtain ⟨k, hk⟩ := Nat.exists_eq_add_of_le (hlog.trans hembeds.fractionBits_le)
  have hfloat := hembeds.isFloat h hpos hk
  have hden : 0 < (overUnit significand 1 (-scale)).2 := overUnit_den_pos Nat.one_pos _
  have hratio : ((overUnit significand 1 (-scale)).1 : ℚ) / (overUnit significand 1 (-scale)).2 =
      (significand * 2 ^ k : ℕ) * 2 ^ (scale - k) := by
    rw [overUnit_ratio, zpow_neg, Nat.cast_one, div_one, div_inv_eq_mul, Nat.cast_mul,
      Nat.cast_pow, mul_assoc, Nat.cast_ofNat, ← zpow_natCast, ← zpow_add₀ two_ne_zero,
      add_sub_cancel]
  have hpos' : 0 < significand * 2 ^ k := Nat.mul_pos hpos (Nat.two_pow_pos k)
  have hnearest := (nearest_eq_word_iff hg hfloat hpos' (overUnit_num_pos hpos _) hden).2
    (hratio ▸ RoundingInterval.contains_center g hpos' _)
  exact ⟨k, by omega, by rw [encodeFrom_finite, hnearest, hfloat.decode_word]⟩

end Embeds

theorem embeds_binary32_binary64 : binary32.Embeds binary64 :=
  ⟨by decide, by decide, by decide, by decide⟩

end FloatFormat

/-! ## Floats of 32 bits in 64 -/

namespace Binary32

open FloatFormat

variable {x : Binary32} {negative : Bool}

theorem datum_toBinary64 (x : Binary32) :
    x.toBinary64.datum = binary64.decode (encodeFrom binary32 binary64 x.datum) := by
  have hlt : encodeFrom binary32 binary64 x.datum < 2 ^ 64 :=
    encodeFrom_lt (f := binary32) (g := binary64) (by decide)
  rw [Binary64.datum, toBinary64, UInt64.toNat_ofNat_of_lt' hlt]

theorem datum_toBinary64_of_nan {payload : ℕ} (h : x.datum = .nan negative payload) :
    ∃ payload', x.toBinary64.datum = .nan negative payload' := by
  rw [datum_toBinary64, h]
  exact decode_encodeFrom_nan (by decide) (payload_lt_of_decode h).2

theorem datum_toBinary64_of_infinite (h : x.datum = .infinite negative) :
    x.toBinary64.datum = .infinite negative := by
  rw [datum_toBinary64, h, decode_encodeFrom_infinite]

theorem datum_toBinary64_of_zero {scale : ℤ} (h : x.datum = .finite negative 0 scale) :
    x.toBinary64.datum = .finite negative 0 binary64.minScale := by
  rw [datum_toBinary64, h, embeds_binary32_binary64.decode_encodeFrom_zero]

/-- A positive finite number keeps its value: its significand is moved up to 53 bits. -/
theorem datum_toBinary64_of_finite {significand : ℕ} {scale : ℤ}
    (h : x.datum = .finite negative significand scale) (hpos : 0 < significand) :
    ∃ k : ℕ, 29 ≤ k ∧
      x.toBinary64.datum = .finite negative (significand * 2 ^ k) (scale - k) := by
  obtain ⟨hfloat, -⟩ := isFloat_of_decode (by decide) h
  obtain ⟨k, hk, hdecode⟩ := embeds_binary32_binary64.decode_encodeFrom (by decide) hfloat hpos
  have hbits32 : binary32.fractionBits = 23 := rfl
  have hbits64 : binary64.fractionBits = 52 := rfl
  refine ⟨k, by omega, ?_⟩
  rw [datum_toBinary64, h, hdecode]

end Binary32

end SqlAccess

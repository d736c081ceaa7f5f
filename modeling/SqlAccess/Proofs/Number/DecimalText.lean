import Mathlib.Data.List.TakeWhile
import SqlAccess.Number.Layout
import SqlAccess.Proofs.Number.Shortest
import SqlAccess.Proofs.Number.Widening
import SqlAccess.Text.Digits

/-!
# Decimals as texts

A decimal that is displayed can be read: the digits of its text, with the point taken out and
counted, give its number back (`pointValue_decimalText`). So two decimals of one text are equal
numbers, and a float of 32 bits has its text in 64 bits too exactly if it is read back from it there
(`Binary32.display_toBinary64_iff`).
-/

namespace SqlAccess

namespace Text

/-- The number that digits spell with a point among them, or with none. -/
def pointValue (s : List Char) : ℚ :=
  digitsValue (s.filter (· != '.')) / 10 ^ (s.dropWhile (· != '.')).tail.length

variable {s whole fraction : List Char}

theorem ne_point_of_mem_toDigits {n : ℕ} {c : Char} (hc : c ∈ Nat.toDigits 10 n) : c ≠ '.' := by
  rintro rfl
  exact absurd (Nat.isDigit_of_mem_toDigits (by decide) (by decide) hc) (by decide)

theorem ne_point_of_mem_zeros {k : ℕ} {c : Char} (hc : c ∈ List.replicate k '0') : c ≠ '.' := by
  rw [List.eq_of_mem_replicate hc]
  decide

theorem pointValue_of_no_point (hs : ∀ c ∈ s, c ≠ '.') : pointValue s = digitsValue s := by
  have hfilter : s.filter (· != '.') = s := List.filter_eq_self.2 fun c hc => by simp [hs c hc]
  have hdrop : s.dropWhile (· != '.') = [] :=
    List.dropWhile_eq_nil_iff.2 fun c hc => by simp [hs c hc]
  simp [pointValue, hfilter, hdrop]

theorem pointValue_append_point (hw : ∀ c ∈ whole, c ≠ '.') (hf : ∀ c ∈ fraction, c ≠ '.') :
    pointValue (whole ++ '.' :: fraction) =
      digitsValue (whole ++ fraction) / 10 ^ fraction.length := by
  have hfilter : (whole ++ '.' :: fraction).filter (· != '.') = whole ++ fraction := by
    rw [List.filter_append, List.filter_cons_of_neg (by decide),
      List.filter_eq_self.2 fun c hc => by simp [hw c hc],
      List.filter_eq_self.2 fun c hc => by simp [hf c hc]]
  have hdrop : (whole ++ '.' :: fraction).dropWhile (· != '.') = '.' :: fraction := by
    rw [List.dropWhile_append_of_pos fun c hc => by simp [hw c hc]]
    rfl
  rw [pointValue, hfilter, hdrop, List.tail_cons]

theorem digitsValue_append_zeros (s : List Char) (k : ℕ) :
    digitsValue (s ++ List.replicate k '0') = digitsValue s * 10 ^ k := by
  rw [digitsValue_eq_ofDigitChars, digitsValue_eq_ofDigitChars, Nat.ofDigitChars_append,
    Nat.ofDigitChars_replicate_zero, Nat.mul_comm]

theorem digitsValue_zeros_append (k : ℕ) (s : List Char) :
    digitsValue (List.replicate k '0' ++ s) = digitsValue s := by
  rw [digitsValue_eq_ofDigitChars, digitsValue_eq_ofDigitChars, Nat.ofDigitChars_append,
    Nat.ofDigitChars_replicate_zero, Nat.mul_zero]

/-! The three places where a point may stand: behind the digits, among them and before them. -/

theorem pointValue_append_zeros (hs : ∀ c ∈ s, c ≠ '.') (k : ℕ) :
    pointValue (s ++ List.replicate k '0') = digitsValue s * 10 ^ k := by
  have hpoint (c : Char) (hc : c ∈ s ++ List.replicate k '0') : c ≠ '.' :=
    (List.mem_append.1 hc).elim (hs c) ne_point_of_mem_zeros
  rw [pointValue_of_no_point hpoint, digitsValue_append_zeros, Nat.cast_mul, Nat.cast_pow,
    Nat.cast_ofNat]

theorem pointValue_take_drop (hs : ∀ c ∈ s, c ≠ '.') (k : ℕ) :
    pointValue (s.take k ++ '.' :: s.drop k) = digitsValue s / 10 ^ (s.length - k) := by
  rw [pointValue_append_point (fun c hc => hs c (List.mem_of_mem_take hc))
    (fun c hc => hs c (List.mem_of_mem_drop hc)), List.take_append_drop, List.length_drop]

theorem pointValue_zero_point (hs : ∀ c ∈ s, c ≠ '.') (k : ℕ) :
    pointValue ('0' :: '.' :: List.replicate k '0' ++ s) = digitsValue s / 10 ^ (k + s.length) := by
  have hwhole (c : Char) (hc : c ∈ ['0']) : c ≠ '.' := by
    rw [List.mem_singleton.1 hc]
    decide
  have hfraction (c : Char) (hc : c ∈ List.replicate k '0' ++ s) : c ≠ '.' :=
    (List.mem_append.1 hc).elim ne_point_of_mem_zeros (hs c)
  have hvalue : digitsValue (['0'] ++ (List.replicate k '0' ++ s)) = digitsValue s := by
    rw [show ['0'] = List.replicate 1 '0' from rfl, digitsValue_zeros_append,
      digitsValue_zeros_append]
  refine (pointValue_append_point hwhole hfraction).trans ?_
  rw [hvalue, List.length_append, List.length_replicate]

end Text

namespace FloatLayout

open Text

theorem pointValue_positionalText (n : ℕ) (exponent : ℤ) :
    pointValue (displayed.positionalText (Nat.toDigits 10 n) exponent) = n * 10 ^ exponent := by
  have hdigits (c : Char) (hc : c ∈ Nat.toDigits 10 n) : c ≠ '.' := ne_point_of_mem_toDigits hc
  unfold positionalText
  split
  · next h =>
    obtain ⟨k, rfl⟩ := Int.eq_ofNat_of_zero_le h
    have htail : displayed.integralTail.toList = [] := rfl
    rw [htail, List.append_nil, Int.toNat_natCast, pointValue_append_zeros hdigits,
      digitsValue_toDigits, zpow_natCast]
  · next h =>
    obtain ⟨k, rfl⟩ : ∃ k : ℕ, exponent = -k := ⟨(-exponent).toNat, by omega⟩
    rw [zpow_neg, zpow_natCast, ← div_eq_mul_inv]
    dsimp only
    split
    · rw [pointValue_take_drop hdigits, digitsValue_toDigits]
      congr 2
      omega
    · rw [pointValue_zero_point hdigits, digitsValue_toDigits]
      congr 2
      omega

theorem pointValue_decimalText (d : Decimal) :
    pointValue (displayed.decimalText d) = d.value :=
  pointValue_positionalText d.digits d.exponent

theorem value_eq_of_decimalText_eq {d e : Decimal}
    (h : displayed.decimalText d = displayed.decimalText e) : d.value = e.value := by
  rw [← pointValue_decimalText, h, pointValue_decimalText]

theorem text_finite_inj {f g : FloatFormat} {negative : Bool} {m n : ℕ} {scale scale' : ℤ}
    (hm : m ≠ 0) (hn : n ≠ 0) :
    displayed.text f (.finite negative m scale) = displayed.text g (.finite negative n scale') ↔
      displayed.decimalText (shortestDecimal f displayed.tie m scale) =
        displayed.decimalText (shortestDecimal g displayed.tie n scale') := by
  cases negative <;> simp [text, hm, hn, String.ofList_inj]

end FloatLayout

/-! ## The text of a widened float -/

namespace Binary32

open FloatFormat FloatLayout

/-- The float of 64 bits that the text of `x` is read as, the nearest to the decimal that it shows.
NaNs, infinities and zeros show no decimal and are read as what they are. -/
def readWide? (x : Binary32) : Option Binary64 :=
  match x.datum with
  | .finite negative significand scale =>
    if significand = 0 then some x.toBinary64
    else
      let d := shortestDecimal binary32 displayed.tie significand scale
      Binary64.ofDecimal? negative d.digits d.exponent
  | _ => some x.toBinary64

/-- Whether the text of `x` is read as `x` in 64 bits too, where other floats may be nearer to what
it shows. -/
def ReadsBackWide (x : Binary32) : Prop :=
  x.readWide? = some x.toBinary64

instance (x : Binary32) : Decidable x.ReadsBackWide :=
  inferInstanceAs (Decidable (_ = _))

/-- A float shows the same text when it is widened exactly if its decimal still reads back. -/
theorem display_toBinary64_iff (x : Binary32) :
    x.toBinary64.display = x.display ↔ x.ReadsBackWide := by
  rw [Binary64.display, Binary32.display, ReadsBackWide, readWide?]
  cases hx : x.datum with
  | nan negative payload =>
    obtain ⟨payload', hwide⟩ := datum_toBinary64_of_nan hx
    simp [hwide, text]
  | infinite negative =>
    simp [datum_toBinary64_of_infinite hx, text]
  | finite negative m scale =>
    rcases Nat.eq_zero_or_pos m with rfl | hpos
    · simp [datum_toBinary64_of_zero hx, text]
    obtain ⟨hfloat, -⟩ := isFloat_of_decode (by decide) hx
    obtain ⟨k, hk, hwide⟩ := datum_toBinary64_of_finite hx hpos
    obtain ⟨hfloat', -⟩ := isFloat_of_decode (by decide) hwide
    have hpos' : 0 < m * 2 ^ k := Nat.mul_pos hpos (Nat.two_pow_pos k)
    simp only [hwide, if_neg hpos.ne']
    rw [text_finite_inj hpos'.ne' hpos.ne', Binary64.ofDecimal?_eq_some_iff hwide hpos']
    constructor
    · intro htext
      rw [← value_eq_of_decimalText_eq htext]
      exact contains_shortestDecimal (by decide) _ _ hpos' hfloat'.high
    · intro hcontains
      rw [shortestDecimal_shift (by decide) _ _ hpos hfloat.high (by omega) hcontains]

end Binary32

end SqlAccess

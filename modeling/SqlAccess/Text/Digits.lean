/-!
# Decimal digits

Digits of a fixed width, the zeros at the end of a fraction, and the numbers that digits spell.
Reading the digits of a number gives the number (`digitsValue_toDigits`,
`intWithin?_toString`).
-/

namespace SqlAccess.Text

/-- `n` in decimal, with zeros in front up to `width` digits. -/
def padded (width n : Nat) : List Char :=
  let digits := Nat.toDigits 10 n
  List.replicate (width - digits.length) '0' ++ digits

/-- `digits` without the zeros at its end. -/
def withoutTrailingZeros (digits : List Char) : List Char :=
  (digits.reverse.dropWhile (· == '0')).reverse

/-- The number that decimal digits spell. -/
def digitsValue (digits : List Char) : Nat :=
  digits.foldl (fun n c => n * 10 + (c.toNat - '0'.toNat)) 0

/-- The number that a text of digits alone spells, of which there has to be one. -/
def natOfDigits? (digits : List Char) : Option Nat :=
  if !digits.isEmpty && digits.all Char.isDigit then some (digitsValue digits) else none

/-- A number below `bound` in decimal digits, with a plus sign at most. -/
def natBelow? (bound : Nat) (s : List Char) : Option Nat :=
  let digits :=
    match s with
    | '+' :: rest => rest
    | s => s
  (natOfDigits? digits).filter (· < bound)

/-- A signed number in decimal digits that lies between `least` and `greatest`. -/
def intWithin? (least greatest : Int) (s : List Char) : Option Int :=
  let n : Option Int :=
    match s with
    | '-' :: digits => (natOfDigits? digits).map fun n => -(n : Int)
    | '+' :: digits => (natOfDigits? digits).map Int.ofNat
    | digits => (natOfDigits? digits).map Int.ofNat
  n.filter fun n => least ≤ n && n ≤ greatest

/-! ## Reading what was written -/

theorem digitsValue_eq_ofDigitChars (digits : List Char) :
    digitsValue digits = Nat.ofDigitChars 10 digits 0 := by
  simp only [digitsValue, Nat.ofDigitChars_eq_foldl, Nat.mul_comm]

theorem digitsValue_toDigits (n : Nat) : digitsValue (Nat.toDigits 10 n) = n := by
  rw [digitsValue_eq_ofDigitChars, Nat.ofDigitChars_ten_toDigits]

theorem natOfDigits?_toDigits (n : Nat) : natOfDigits? (Nat.toDigits 10 n) = some n := by
  have hdigits : (Nat.toDigits 10 n).all Char.isDigit = true :=
    List.all_eq_true.2 fun _ hc => Nat.isDigit_of_mem_toDigits (by decide) (by decide) hc
  simp [natOfDigits?, hdigits, digitsValue_toDigits]

/-- Without a sign in front a text of digits is read as they are. -/
theorem intWithin?_of_isDigit {least greatest : Int} {s : List Char}
    (hs : ∀ c ∈ s.head?, c.isDigit = true) :
    intWithin? least greatest s =
      ((natOfDigits? s).map Int.ofNat).filter fun n => least ≤ n && n ≤ greatest := by
  cases s with
  | nil => rfl
  | cons c s =>
    have hc : c.isDigit = true := hs c rfl
    have hminus : c ≠ '-' := by rintro rfl; cases hc
    have hplus : c ≠ '+' := by rintro rfl; cases hc
    simp [intWithin?, hminus, hplus]

theorem intWithin?_toString {least greatest n : Int} (hleast : least ≤ n)
    (hgreatest : n ≤ greatest) : intWithin? least greatest (toString n).toList = some n := by
  rw [Int.toString_eq_repr, Int.repr_eq_if]
  split
  · next hn =>
    have hdigits : ∀ c ∈ (Nat.toDigits 10 n.toNat).head?, c.isDigit = true := fun c hc =>
      Nat.isDigit_of_mem_toDigits (by decide) (by decide) (List.mem_of_mem_head? hc)
    rw [Nat.toList_repr, intWithin?_of_isDigit hdigits, natOfDigits?_toDigits]
    simp [Int.max_eq_left hn, hleast, hgreatest]
  · next hn =>
    have hneg : -max (-n) 0 = n := by omega
    rw [String.toList_append, Nat.toList_repr]
    simp [intWithin?, natOfDigits?_toDigits, hneg, hleast, hgreatest]

end SqlAccess.Text

/-!
# Binary floating-point numbers

Floats are held as the words of the interchange formats `binary32` and `binary64`, so that two
NaNs or two zeros are told apart by their bits. All arithmetic is on exact integers: a finite
float is `significand * 2 ^ scale`, and `FloatFormat.nearest` rounds a positive ratio to the
nearest float, a tie going to the even neighbour.
-/

namespace SqlAccess

/-- The widths of the fields of an interchange format; the sign takes one more bit. -/
structure FloatFormat where
  fractionBits : Nat
  exponentBits : Nat
  deriving DecidableEq, Repr

/-- What a float stands for. -/
inductive FloatDatum
  | nan (negative : Bool) (payload : Nat)
  | infinite (negative : Bool)
  | finite (negative : Bool) (significand : Nat) (scale : Int)
  deriving DecidableEq, Repr

namespace FloatFormat

def binary32 : FloatFormat := ⟨23, 8⟩

def binary64 : FloatFormat := ⟨52, 11⟩

/-- The exponent of the smallest positive float. -/
def minScale (f : FloatFormat) : Int :=
  2 - Int.ofNat (Nat.pow 2 (f.exponentBits - 1)) - f.fractionBits

/-- The bits of positive infinity. -/
def infinityBits (f : FloatFormat) : Nat :=
  (Nat.pow 2 f.exponentBits - 1) * Nat.pow 2 f.fractionBits

/-- The weight of the sign bit. -/
def signWeight (f : FloatFormat) : Nat :=
  Nat.pow 2 (f.exponentBits + f.fractionBits)

def decode (f : FloatFormat) (bits : Nat) : FloatDatum :=
  let negative := bits / f.signWeight % 2 == 1
  let magnitude := bits % f.signWeight
  let exponent := magnitude / Nat.pow 2 f.fractionBits
  let fraction := magnitude % Nat.pow 2 f.fractionBits
  if exponent = Nat.pow 2 f.exponentBits - 1 then
    if fraction = 0 then .infinite negative else .nan negative fraction
  else if exponent = 0 then .finite negative fraction f.minScale
  else .finite negative (fraction + Nat.pow 2 f.fractionBits) (f.minScale + exponent - 1)

/-- `bits` with the sign bit set if the number is negative. -/
def signed (f : FloatFormat) (negative : Bool) (bits : Nat) : Nat :=
  if negative then f.signWeight + bits else bits

/-- The quotient rounded to the nearest integer, a tie to the even one. -/
def roundEven (num den : Nat) : Nat :=
  let k := num / den
  let twice := 2 * (num % den)
  if den < twice || (den == twice && k % 2 == 1) then k + 1 else k

/-- `num / den` as a ratio over the unit `2 ^ scale`. -/
def overUnit (num den : Nat) (scale : Int) : Nat × Nat :=
  if 0 ≤ scale then (num, den * Nat.pow 2 scale.toNat)
  else (num * Nat.pow 2 (-scale).toNat, den)

/-- The exponent of the leading bit of `num / den`. -/
def leadingExponent (num den : Nat) : Int :=
  let e : Int := Nat.log2 num - Nat.log2 den
  let (n, d) := overUnit num den e
  if d ≤ n then e else e - 1

/-- The bits of the float nearest to the positive `num / den`; too large a ratio gives infinity.
Floats of one scale are consecutive words, and so are those of neighbouring scales, which makes
the word linear in the rounded significand. -/
def nearest (f : FloatFormat) (num den : Nat) : Nat :=
  if num = 0 then 0
  else
    let scale := max (leadingExponent num den - f.fractionBits) f.minScale
    let (n, d) := overUnit num den scale
    min ((scale - f.minScale).toNat * Nat.pow 2 f.fractionBits + roundEven n d) f.infinityBits

/-- The bits of the float nearest to `digits * 10 ^ exponent`. An exponent that leaves no doubt
about overflow or underflow is not raised to. -/
def nearestDecimal (f : FloatFormat) (digits : Nat) (exponent : Int) : Nat :=
  if digits = 0 then 0
  else
    let reach : Int := exponent + (Nat.toDigits 10 digits).length
    if 400 < reach then f.infinityBits
    else if reach < -400 then 0
    else if 0 ≤ exponent then f.nearest (digits * Nat.pow 10 exponent.toNat) 1
    else f.nearest digits (Nat.pow 10 (-exponent).toNat)

/-- The bits in which `g` holds what `d` stands for, a NaN of `f` keeping the leading bits of its
payload and becoming quiet. -/
def encodeFrom (f g : FloatFormat) : FloatDatum → Nat
  | .nan negative payload =>
    let moved := payload * Nat.pow 2 g.fractionBits / Nat.pow 2 f.fractionBits
    g.signed negative (g.infinityBits + (moved ||| Nat.pow 2 (g.fractionBits - 1)))
  | .infinite negative => g.signed negative g.infinityBits
  | .finite negative significand scale =>
    let (n, d) := overUnit significand 1 (-scale)
    g.signed negative (g.nearest n d)

end FloatFormat

/-- A word of the format `binary32`. -/
structure Binary32 where
  bits : UInt32
  deriving DecidableEq, Repr

/-- A word of the format `binary64`. -/
structure Binary64 where
  bits : UInt64
  deriving DecidableEq, Repr

namespace Binary64

def datum (x : Binary64) : FloatDatum :=
  FloatFormat.binary64.decode x.bits.toNat

def toBinary32 (x : Binary64) : Binary32 :=
  ⟨UInt32.ofNat (FloatFormat.encodeFrom .binary64 .binary32 x.datum)⟩

/-- The float nearest to an integer. -/
def ofInt (n : Int) : Binary64 :=
  ⟨UInt64.ofNat (FloatFormat.binary64.signed (n < 0) (FloatFormat.binary64.nearest n.natAbs 1))⟩

/-- The float nearest to `± digits * 10 ^ exponent`, unless it is infinite. -/
def ofDecimal? (negative : Bool) (digits : Nat) (exponent : Int) : Option Binary64 :=
  let magnitude := FloatFormat.binary64.nearestDecimal digits exponent
  if magnitude = FloatFormat.binary64.infinityBits then none
  else some ⟨UInt64.ofNat (FloatFormat.binary64.signed negative magnitude)⟩

end Binary64

namespace Binary32

def datum (x : Binary32) : FloatDatum :=
  FloatFormat.binary32.decode x.bits.toNat

def toBinary64 (x : Binary32) : Binary64 :=
  ⟨UInt64.ofNat (FloatFormat.encodeFrom .binary32 .binary64 x.datum)⟩

/-- The float nearest to an integer. -/
def ofInt (n : Int) : Binary32 :=
  ⟨UInt32.ofNat (FloatFormat.binary32.signed (n < 0) (FloatFormat.binary32.nearest n.natAbs 1))⟩

end Binary32

end SqlAccess

import SqlAccess.Number.Binary

/-!
# Shortest decimal digits

The decimal with the fewest digits among those that lie closer to a float than to its neighbours,
and of those the nearest to it. For each number of digits only the two neighbours of the float on
that decimal grid are tried: if any point of the grid reads back as the float, one of them does.
-/

namespace SqlAccess

/-- Which of two equally near decimals is taken. -/
inductive DecimalTie
  | toEven
  | up
  deriving DecidableEq, Repr

/-- The number `digits * 10 ^ exponent`. -/
structure Decimal where
  digits : Nat
  exponent : Int
  deriving DecidableEq, Repr

namespace Decimal

def digitCount (n : Nat) : Nat :=
  (Nat.toDigits 10 n).length

/-- The exponent of the leading decimal digit of the positive `num / den`. -/
def leadingExponent (num den : Nat) : Int :=
  if den ≤ num then (digitCount (num / den) : Int) - 1
  else
    let t := digitCount (den / num)
    if den ≤ num * Nat.pow 10 (t - 1) then -((t : Int) - 1) else -(t : Int)

/-- Moves trailing zeros into the exponent, at most `fuel` of them. -/
def trim : Nat → Decimal → Decimal
  | 0, d => d
  | fuel + 1, d =>
    if d.digits ≠ 0 ∧ d.digits % 10 = 0 then trim fuel ⟨d.digits / 10, d.exponent + 1⟩ else d

end Decimal

/-- The positive reals that read back as one float, over a common denominator: the float itself
and the ends of its interval, which belong to it if `closed`. -/
structure RoundingInterval where
  value : Nat
  low : Nat
  high : Nat
  den : Nat
  closed : Bool
  deriving DecidableEq, Repr

namespace RoundingInterval

/-- The interval of the float `significand * 2 ^ scale` of format `f`. Below a power of two the
floats lie twice as dense, which moves the lower end closer. -/
def ofFinite (f : FloatFormat) (significand : Nat) (scale : Int) : RoundingInterval :=
  let up := Nat.pow 2 scale.toNat
  let below := if significand = Nat.pow 2 f.fractionBits ∧ f.minScale < scale then 1 else 2
  { value := 4 * significand * up
    low := (4 * significand - below) * up
    high := (4 * significand + 2) * up
    den := 4 * Nat.pow 2 (-scale).toNat
    closed := significand % 2 == 0 }

/-- Whether `n / d` reads back as the float. -/
def contains (i : RoundingInterval) (n d : Nat) : Bool :=
  if i.closed then i.low * d ≤ n * i.den && n * i.den ≤ i.high * d
  else i.low * d < n * i.den && n * i.den < i.high * d

/-- The nearest decimal to the float among its neighbours on the grid `10 ^ exponent` that read
back as it. -/
def onGrid (i : RoundingInterval) (tie : DecimalTie) (exponent : Int) : Option Decimal :=
  let n := Nat.pow 10 exponent.toNat
  let d := Nat.pow 10 (-exponent).toNat
  -- The float in units of the grid is `i.value * d / (i.den * n)`.
  let unit := i.den * n
  let down := i.value * d / unit
  let twice := 2 * (i.value * d % unit)
  let takeUp :=
    match i.contains (down * n) d, i.contains ((down + 1) * n) d with
    | true, false => some false
    | false, true => some true
    | false, false => none
    | true, true =>
      some (unit < twice ||
        (unit == twice && (match tie with | .up => true | .toEven => down % 2 == 1)))
  takeUp.map fun b => ⟨if b then down + 1 else down, exponent⟩

/-- The first hit on the grids for `count`, `count + 1`, … digits, `fuel` of them. -/
def search (i : RoundingInterval) (tie : DecimalTie) (leading : Int) : Nat → Nat → Option Decimal
  | 0, _ => none
  | fuel + 1, count =>
    match i.onGrid tie (leading + 1 - count) with
    | some d => some d
    | none => search i tie leading fuel (count + 1)

end RoundingInterval

/-- The shortest decimal that reads back as the positive float `significand * 2 ^ scale`. -/
def shortestDecimal (f : FloatFormat) (tie : DecimalTie) (significand : Nat) (scale : Int) :
    Decimal :=
  let i := RoundingInterval.ofFinite f significand scale
  let leading := Decimal.leadingExponent i.value i.den
  match i.search tie leading 17 1 with
  | some d => d.trim 20
  | none => ⟨0, 0⟩

end SqlAccess

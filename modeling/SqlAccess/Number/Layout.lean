import SqlAccess.Number.Shortest

/-!
# Number texts

How the digits of a float become text: which exponents are written positionally, what follows an
integral number, and what the values without digits are called. A layout is a record of these
choices; `displayed` and `Json` documents differ in nothing else.
-/

namespace SqlAccess

/-- The choices that fix the text of a float. -/
structure FloatLayout where
  /-- The exponents of the leading digit that are written without an exponent part, from the
  first to below the second; all if absent. -/
  positional : Option (Int × Int)
  /-- What follows an integral number written positionally. -/
  integralTail : String
  tie : DecimalTie
  deriving DecidableEq, Repr

namespace FloatLayout

def isPositional (l : FloatLayout) (exponent : Int) : Bool :=
  match l.positional with
  | none => true
  | some (least, bound) => least ≤ exponent && exponent < bound

/-- A decimal written with its point, which stands behind the digits, among them or before
them. -/
def positionalText (l : FloatLayout) (digits : List Char) (exponent : Int) : List Char :=
  if 0 ≤ exponent then
    digits ++ List.replicate exponent.toNat '0' ++ l.integralTail.toList
  else
    let whole : Int := digits.length + exponent
    if 0 < whole then
      digits.take whole.toNat ++ '.' :: digits.drop whole.toNat
    else
      '0' :: '.' :: List.replicate (-whole).toNat '0' ++ digits

/-- A decimal written with an exponent part: one digit before the point, and a sign in any
case. -/
def exponentText (digits : List Char) (leading : Int) : List Char :=
  let mantissa :=
    match digits with
    | [] => []
    | [d] => [d]
    | d :: rest => d :: '.' :: rest
  let sign := if leading < 0 then '-' else '+'
  mantissa ++ 'e' :: sign :: Nat.toDigits 10 leading.natAbs

/-- The text of a positive decimal. -/
def decimalText (l : FloatLayout) (d : Decimal) : List Char :=
  let digits := Nat.toDigits 10 d.digits
  let leading : Int := d.exponent + digits.length - 1
  if l.isPositional leading then l.positionalText digits d.exponent
  else exponentText digits leading

def text (l : FloatLayout) (f : FloatFormat) : FloatDatum → String
  | .nan _ _ => "NaN"
  | .infinite negative => if negative then "-inf" else "inf"
  | .finite negative significand scale =>
    let magnitude :=
      if significand = 0 then l.positionalText ['0'] 0
      else l.decimalText (shortestDecimal f l.tie significand scale)
    String.ofList (if negative then '-' :: magnitude else magnitude)

/-- Floats as they are displayed: all digits positional, and no point after an integral number. -/
def displayed : FloatLayout := ⟨none, "", .up⟩

end FloatLayout

def Binary32.display (x : Binary32) : String :=
  FloatLayout.displayed.text .binary32 x.datum

def Binary64.display (x : Binary64) : String :=
  FloatLayout.displayed.text .binary64 x.datum

end SqlAccess

import SqlAccess.Text.Digits

/-!
# Spans of time

A duration is a number of nanoseconds. It is written in the largest unit that leaves a whole part,
with as many decimals as it needs.
-/

namespace SqlAccess

open Text (padded withoutTrailingZeros)

structure Duration where
  nanoseconds : Nat
  deriving DecidableEq, Repr

namespace Duration

def ofSeconds (seconds : Nat) : Duration := ⟨seconds * 1000000000⟩

def ofMillis (millis : Nat) : Duration := ⟨millis * 1000000⟩

/-- `seconds` whole seconds and `nanos` more nanoseconds. -/
def ofParts (seconds nanos : Nat) : Duration := ⟨seconds * 1000000000 + nanos⟩

def seconds (d : Duration) : Nat := d.nanoseconds / 1000000000

def subsecondNanos (d : Duration) : Nat := d.nanoseconds % 1000000000

def isZero (d : Duration) : Bool := d.nanoseconds == 0

/-- `whole` and the fraction `part / 10 ^ width`, which is left out if it is zero. -/
def decimalChars (whole part width : Nat) : List Char :=
  let fraction := if part = 0 then [] else '.' :: withoutTrailingZeros (padded width part)
  Nat.toDigits 10 whole ++ fraction

def text (d : Duration) : String :=
  let n := d.nanoseconds
  if 1000000000 ≤ n then
    String.ofList (decimalChars (n / 1000000000) (n % 1000000000) 9) ++ "s"
  else if 1000000 ≤ n then
    String.ofList (decimalChars (n / 1000000) (n % 1000000) 6) ++ "ms"
  else if 1000 ≤ n then String.ofList (decimalChars (n / 1000) (n % 1000) 3) ++ "µs"
  else String.ofList (Nat.toDigits 10 n) ++ "ns"

end Duration

end SqlAccess

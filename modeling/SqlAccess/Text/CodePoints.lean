/-!
# Sets of code points

A character class of a standard is kept as a list of closed intervals, or of arithmetic runs
where every second code point belongs to the class. Both are searched from the front.
-/

namespace SqlAccess.Text

/-- A closed interval of code points. -/
structure Interval where
  first : Nat
  last : Nat
  deriving DecidableEq, Repr

/-- The code points `first`, `first + step`, … up to `last`. -/
structure Run where
  first : Nat
  last : Nat
  step : Nat
  deriving DecidableEq, Repr

def Interval.contains (i : Interval) (n : Nat) : Bool :=
  i.first ≤ n && n ≤ i.last

def Run.contains (r : Run) (n : Nat) : Bool :=
  r.first ≤ n && n ≤ r.last && (n - r.first) % r.step == 0

/-- Intervals written as pairs. -/
def intervals (pairs : List (Nat × Nat)) : List Interval :=
  pairs.map fun (first, last) => ⟨first, last⟩

/-- Runs written as triples. -/
def runs (triples : List (Nat × Nat × Nat)) : List Run :=
  triples.map fun (first, last, step) => ⟨first, last, step⟩

end SqlAccess.Text

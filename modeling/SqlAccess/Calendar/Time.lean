import SqlAccess.Calendar.Date

/-!
# Times of day

A time is a second of the day and the nanoseconds behind it. A leap second is the second before it
with a thousand million nanoseconds or more, and is written as second 60.
-/

namespace SqlAccess

open Text (padded)

structure Time where
  secondOfDay : Nat
  nanos : Nat
  second_lt : secondOfDay < 86400
  nanos_lt : nanos < 2000000000
  deriving DecidableEq, Repr

namespace Time

def midnight : Time := ⟨0, 0, by decide, by decide⟩

def ofParts? (hour minute second nanos : Nat) : Option Time :=
  if h : hour < 24 ∧ minute < 60 ∧ second < 60 ∧ nanos < 2000000000 then
    some ⟨hour * 3600 + minute * 60 + second, nanos, by omega, h.2.2.2⟩
  else none

def hour (t : Time) : Nat := t.secondOfDay / 3600

def minute (t : Time) : Nat := t.secondOfDay / 60 % 60

def second (t : Time) : Nat := t.secondOfDay % 60

/-- Microseconds since midnight, a leap second running on from the second before it. -/
def toMicros (t : Time) : Int :=
  t.secondOfDay * 1000000 + t.nanos / 1000

/-- The time `micros` microseconds after midnight; whole days are dropped. -/
def ofMicros (micros : Int) : Time :=
  let inDay := (micros % 86400000000).toNat
  ⟨inDay / 1000000, inDay % 1000000 * 1000, by omega, by omega⟩

/-- Hour, minute and second. -/
def clockChars (t : Time) : List Char :=
  padded 2 t.hour ++ ':' :: padded 2 t.minute ++ ':' ::
    padded 2 (t.second + t.nanos / 1000000000)

/-- A fraction of as many digits as are needed out of none, three, six and nine. -/
def fractionChars (t : Time) : List Char :=
  let nanos := t.nanos % 1000000000
  if nanos = 0 then []
  else if nanos % 1000000 = 0 then '.' :: padded 3 (nanos / 1000000)
  else if nanos % 1000 = 0 then '.' :: padded 6 (nanos / 1000)
  else '.' :: padded 9 nanos

def chars (t : Time) : List Char :=
  t.clockChars ++ t.fractionChars

def text (t : Time) : String :=
  String.ofList t.chars

/-- The time cut to milliseconds, which are always written. -/
def millisChars (t : Time) : List Char :=
  t.clockChars ++ '.' :: padded 3 (t.nanos % 1000000000 / 1000000)

end Time

end SqlAccess

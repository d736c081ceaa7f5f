import SqlAccess.Calendar.Time

/-!
# Points in time

A `DateTime` is a date and a time of day without a zone, an `Instant` one in universal time, and a
`ZonedDateTime` an instant seen from a zone at a fixed distance. Microseconds are counted from the
start of the year 2000.
-/

namespace SqlAccess

structure DateTime where
  date : Date
  time : Time
  deriving DecidableEq, Repr

namespace DateTime

def atMidnight (d : Date) : DateTime := ⟨d, .midnight⟩

/-- Nanoseconds since the start of the year 2000. -/
def toNanos (t : DateTime) : Int :=
  (t.date.toDays * 86400 + t.time.secondOfDay) * 1000000000 + t.time.nanos

/-- Microseconds since the start of the year 2000, cut toward zero. -/
def toMicros (t : DateTime) : Int :=
  t.toNanos.tdiv 1000

def ofMicros? (micros : Int) : Option DateTime := do
  let date ← Date.ofDays? (micros / 86400000000)
  return ⟨date, .ofMicros micros⟩

/-- The point in time `seconds` earlier, which keeps its nanoseconds; none if it leaves the
calendar. -/
def minusSeconds? (t : DateTime) (seconds : Int) : Option DateTime := do
  let total := t.date.toDays * 86400 + t.time.secondOfDay - seconds
  let date ← Date.ofDays? (total / 86400)
  return ⟨date, ⟨(total % 86400).toNat, t.time.nanos, by omega, t.time.nanos_lt⟩⟩

def text (t : DateTime) : String :=
  String.ofList (t.date.chars ++ ' ' :: t.time.chars)

/-- Date and time cut to milliseconds. -/
def millisText (t : DateTime) : String :=
  String.ofList (t.date.chars ++ ' ' :: t.time.millisChars)

end DateTime

/-- A point in universal time. -/
structure Instant where
  utc : DateTime
  deriving DecidableEq, Repr

def Instant.text (t : Instant) : String :=
  t.utc.text ++ " UTC"

/-- An instant seen from a zone that runs `east` seconds ahead of universal time. -/
structure ZonedDateTime where
  instant : Instant
  east : Int
  deriving DecidableEq, Repr

/-- The local time `t` of a zone, unless its instant leaves the calendar. -/
def ZonedDateTime.ofLocal? (t : DateTime) (east : Int) : Option ZonedDateTime :=
  (t.minusSeconds? east).map fun utc => ⟨⟨utc⟩, east⟩

end SqlAccess

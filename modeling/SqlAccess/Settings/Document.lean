import SqlAccess.Json.Parser
import SqlAccess.Settings.Basic

/-!
# Settings from a document

A JSON document holds settings as an object, or as an array of the leading ones. What is missing
has its default, and a known member must not come twice. Members of other names are ignored, so
that it does not matter what they stand for.
-/

namespace SqlAccess

namespace Settings

/-- An integer that is not negative and lies below `bound`. -/
def readNat? (bound : Nat) : Json.Written → Option Nat
  | .scalar (some (.number (.unsigned n))) => if n.toNat < bound then some n.toNat else none
  | _ => none

/-- Seconds and nanoseconds; whole seconds among the latter are carried over. -/
def durationOf? (seconds nanos : Json.Written) : Option Duration := do
  let d := Duration.ofParts (← readNat? UInt64.size seconds) (← readNat? UInt32.size nanos)
  if d.seconds < UInt64.size then some d else none

/-- A duration has the members `secs` and `nanos`, once each and no others, or is the array of
the two. -/
def readDuration? : Json.Written → Option Duration
  | .object [(some "secs", seconds), (some "nanos", nanos)] => durationOf? seconds nanos
  | .object [(some "nanos", nanos), (some "secs", seconds)] => durationOf? seconds nanos
  | .array [seconds, nanos] => durationOf? seconds nanos
  | _ => none

def readMarker? : Json.Written → Option Char
  | .scalar (some (.string s)) =>
    match s.toList with
    | [c] => some c
    | _ => none
  | _ => none

def readFlag? : Json.Written → Option Bool
  | .scalar (some (.bool b)) => some b
  | _ => none

/-- A value that may be absent, which null says. -/
def readOption? {α : Type} (read? : Json.Written → Option α) : Json.Written → Option (Option α)
  | .scalar (some .null) => some none
  | w => (read? w).map some

/-- The members that settings have, in the order in which an array lists them. -/
def memberNames : List String :=
  ["command_timeout", "parameter_prefix", "log_parameters", "max_logged_sql",
    "slow_command_threshold"]

/-- `s` with the setting called `name` read from a document; other names are ignored. -/
def withMember? (s : Settings) (name : String) (w : Json.Written) : Option Settings :=
  match name with
  | "command_timeout" => (readDuration? w).map fun d => { s with commandTimeout := d }
  | "parameter_prefix" => (readMarker? w).map s.withMarker
  | "log_parameters" => (readFlag? w).map s.withLogParameters
  | "max_logged_sql" =>
    (readOption? (readNat? UInt64.size) w).map fun n => { s with maxLoggedSql := n }
  | "slow_command_threshold" =>
    (readOption? readDuration? w).map fun d => { s with slowThreshold := d }
  | _ => some s

/-- Reads members one after another; `seen` are the names of those before. -/
def withMembers? (s : Settings) (seen : List String) :
    List (Option String × Json.Written) → Option Settings
  | [] => some s
  | (name?, w) :: rest => do
    let name ← name?
    guard (name ∉ memberNames ∨ name ∉ seen)
    withMembers? (← s.withMember? name w) (name :: seen) rest

def ofWritten? : Json.Written → Option Settings
  | .object members => withMembers? default [] members
  | .array items =>
    if items.length ≤ memberNames.length then
      withMembers? default [] ((memberNames.map some).zip items)
    else none
  | .scalar _ => none

/-- The settings in a text. -/
def ofText? (text : String) : Option Settings := do
  ofWritten? (← Json.written? text)

end Settings

end SqlAccess

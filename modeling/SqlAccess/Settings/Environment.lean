import SqlAccess.Settings.Basic
import SqlAccess.Text.Blank
import SqlAccess.Text.Digits

/-!
# Settings from the environment

Environment variables override the defaults one by one; the first that cannot be read decides the
failure. White space around their texts does not count.
-/

namespace SqlAccess

namespace Settings

namespace Variable

def timeoutSeconds : String := "PGMAT_COMMAND_TIMEOUT_SECS"

def marker : String := "PGMAT_PARAMETER_PREFIX"

def logParameters : String := "PGMAT_LOG_PARAMETERS"

def slowMillis : String := "PGMAT_SLOW_COMMAND_MS"

end Variable

/-- The number of 64 bits that the variable `key` holds. -/
def readNumber (key raw : String) : Except Error Nat :=
  match Text.natBelow? UInt64.size (Text.trimmed raw).toList with
  | some n => .ok n
  | none => .error (.invalidArgument (key ++ ": '" ++ raw ++ "' is not a number"))

/-- The single character that the variable `key` holds. -/
def readCharacter (key raw : String) : Except Error Char :=
  match (Text.trimmed raw).toList with
  | [c] => .ok c
  | _ => .error (.invalidArgument (key ++ ": expected a single character, got '" ++ raw ++ "'"))

/-- Whether a text switches something on. -/
def readSwitch (raw : String) : Bool :=
  ["1", "true", "yes", "on"].contains (Text.trimmed raw)

/-- `s` changed by a variable, if it is set. -/
def override (environment : String → Option String) (key : String)
    (change : Settings → String → Except Error Settings) (s : Settings) : Except Error Settings :=
  match environment key with
  | some raw => change s raw
  | none => .ok s

/-- The defaults overridden by the variables that are set. -/
def ofEnvironment (environment : String → Option String) : Except Error Settings := do
  let s ← override environment Variable.timeoutSeconds
    (fun s raw => do
      s.withCommandTimeout (.ofSeconds (← readNumber Variable.timeoutSeconds raw))) default
  let s ← override environment Variable.marker
    (fun s raw => s.withMarker <$> readCharacter Variable.marker raw) s
  let s ← override environment Variable.logParameters
    (fun s raw => .ok (s.withLogParameters (readSwitch raw))) s
  override environment Variable.slowMillis
    (fun s raw =>
      (fun n => s.withSlowThreshold (.ofMillis n)) <$> readNumber Variable.slowMillis raw) s

end Settings

end SqlAccess

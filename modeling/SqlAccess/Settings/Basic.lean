import SqlAccess.Error

/-!
# Settings

The settings of a database object and their defaults. A timeout of zero can be read from a
document but passes no check.
-/

namespace SqlAccess

structure Settings where
  commandTimeout : Duration
  /-- the character that introduces placeholders -/
  marker : Char
  /-- whether logged SQL shows the values of parameters -/
  logParameters : Bool
  /-- the number of bytes after which logged SQL is cut off -/
  maxLoggedSql : Option Nat
  /-- how long a command may take before it is logged as slow -/
  slowThreshold : Option Duration
  deriving DecidableEq, Repr

def defaultCommandTimeout : Duration := .ofSeconds 30

def defaultMarker : Char := '@'

def Error.zeroTimeout : Error :=
  .invalidArgument "command timeout must be greater than zero"

namespace Settings

/-- The settings that apply where nothing else is said. -/
def default : Settings := ⟨defaultCommandTimeout, defaultMarker, false, some 200, none⟩

def validate (s : Settings) : Except Error Unit :=
  if s.commandTimeout.isZero then .error .zeroTimeout else .ok ()

def withCommandTimeout (s : Settings) (timeout : Duration) : Except Error Settings := do
  let s := { s with commandTimeout := timeout }
  s.validate
  return s

def withMarker (s : Settings) (marker : Char) : Settings :=
  { s with marker }

def withLogParameters (s : Settings) (enabled : Bool) : Settings :=
  { s with logParameters := enabled }

def withMaxLoggedSql (s : Settings) (bytes : Nat) : Settings :=
  { s with maxLoggedSql := some bytes }

def withoutTruncation (s : Settings) : Settings :=
  { s with maxLoggedSql := none }

def withSlowThreshold (s : Settings) (threshold : Duration) : Settings :=
  { s with slowThreshold := some threshold }

end Settings

end SqlAccess

import SqlAccess.SqlText.Placeholder
import SqlAccess.Value.Basic

/-!
# Parameters

A parameter is a named value on a command, with the direction in which the value travels.
-/

namespace SqlAccess

inductive Direction
  | input
  | output
  | inputOutput
  | returnValue
  deriving DecidableEq, Repr

namespace Direction

/-- Whether the value is sent to the server. -/
def isInput : Direction → Bool
  | input => true
  | inputOutput => true
  | _ => false

/-- Whether the value is filled in from what the server sends back. -/
def isOutput : Direction → Bool
  | input => false
  | _ => true

end Direction

structure Parameter where
  name : String
  value : Value
  direction : Direction
  deriving Repr

namespace Parameter

instance : Inhabited Parameter := ⟨⟨"", .null, .input⟩⟩

def input (name : String) (value : Value) : Parameter := ⟨name, value, .input⟩

def output (name : String) : Parameter := ⟨name, .null, .output⟩

def inputOutput (name : String) (value : Value) : Parameter := ⟨name, value, .inputOutput⟩

def returnValue (name : String) : Parameter := ⟨name, .null, .returnValue⟩

/-- The name without the marker. -/
def logicalName (p : Parameter) (marker : Char) : String :=
  SqlAccess.logicalName marker p.name

/-- The parameter with the marker in front of its name, unless the name starts with one. -/
def withMarker (p : Parameter) (marker : Char) : Parameter :=
  if p.name.toList.head? = some marker then p else { p with name := fullName marker p.name }

end Parameter

end SqlAccess

import SqlAccess.Command.Basic
import SqlAccess.Table.Basic

/-!
# Outputs of procedures

Outputs come back as columns of the first row of a procedure's result, under the names of their
parameters. The return value may come under any name if it is the first column.
-/

namespace SqlAccess

/-- The column that fills an output: the one with its name, else for the return value the
first. -/
def outputOrdinal? (r : Row) (p : Parameter) (marker : Char) : Option Nat :=
  match r.ordinal? (p.logicalName marker) with
  | some i => some i
  | none => if p.direction = .returnValue ∧ !r.values.isEmpty then some 0 else none

/-- What an output gets from a table. -/
def outputValue (t : Table) (p : Parameter) (marker : Char) : Value :=
  match t.first? with
  | some r => ((outputOrdinal? r p marker).bind fun i => r.values[i]?).getD .null
  | none => .null

/-- Fills the outputs of a command. -/
def Command.withOutputs (c : Command) (t : Table) : Command :=
  { c with
    parameters := c.parameters.map fun p =>
      if p.direction.isOutput then { p with value := outputValue t p c.marker } else p }

/-- The rows of a call and its parameters after it. -/
structure ProcedureResult where
  table : Table
  parameters : List Parameter
  marker : Char

namespace ProcedureResult

def ofCommand (c : Command) (t : Table) : ProcedureResult :=
  ⟨t, (c.withOutputs t).parameters, c.marker⟩

/-- The value of the first output called `name`. -/
def output? (r : ProcedureResult) (name : String) : Option Value :=
  (r.parameters.find? fun p => p.direction.isOutput && p.logicalName r.marker == name).map
    (·.value)

def read (r : ProcedureResult) (name : String) (t : Target) : Except Error Value :=
  match r.output? name with
  | none => .error (.notFound ("output parameter '" ++ name ++ "'"))
  | some v =>
    match t.read v with
    | .ok w => .ok w
    | .error e => .error (.decode name e.message)

def returnValue? (r : ProcedureResult) : Option Value :=
  (r.parameters.find? fun p => p.direction == .returnValue).map (·.value)

end ProcedureResult

end SqlAccess

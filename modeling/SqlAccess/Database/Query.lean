import SqlAccess.Command.Output
import SqlAccess.Database.Command
import SqlAccess.Mapping.Row
import SqlAccess.Table.Reader

/-!
# Queries

Statements with parameters, run in one step and read in the form that the caller wants.
-/

namespace SqlAccess

namespace Error

def noRow : Error := .notFound "Expected 1 row, got 0"

end Error

namespace Database

variable {κ : Type} [Connection κ]

def execute (sql : String) (source : ParameterSource) (cancel : Option Duration) :
    Action κ Nat := do
  executeCommand (← createCommand sql .text source none) cancel

def query (sql : String) (source : ParameterSource) (cancel : Option Duration) :
    Action κ Table := do
  queryCommand (← createCommand sql .text source none) cancel

/-! ## Reading results -/

/-- The first cell of the first row. A result without one reads as null. -/
def scalarOf (t : Table) (target : Target) : Except Error Value :=
  match t.first?.filter (!·.values.isEmpty) with
  | some r => r.read 0 target
  | none =>
    match target.read .null with
    | .ok v => .ok v
    | .error e => .error (.decode "?column?" e.message)

/-- The first row, which has to be there. -/
def firstOfRows (t : Table) (m : RowMapping) : Except Error Mapped :=
  match t.first? with
  | some r => m.apply r
  | none => .error .noRow

/-- The only row. -/
def onlyRow (t : Table) (m : RowMapping) : Except Error Mapped :=
  match t.rows with
  | [r] => m.apply r
  | [] => .error .noRow
  | rows => .error (.tooManyRows 1 rows.length)

/-- The first row, if there is one. -/
def firstRow? (t : Table) (m : RowMapping) : Except Error (Option Mapped) :=
  match t.first? with
  | some r => (m.apply r).map some
  | none => .ok none

/-! ## Queries by form -/

def scalar (sql : String) (source : ParameterSource) (cancel : Option Duration)
    (target : Target) : Action κ Value := do
  conclude (scalarOf (← query sql source cancel) target)

def queryAs (sql : String) (source : ParameterSource) (cancel : Option Duration)
    (m : RowMapping) : Action κ (List Mapped) := do
  conclude (m.applyAll (← query sql source cancel))

def openReader (sql : String) (source : ParameterSource) : Action κ Reader :=
  return .ofTable (← query sql source none)

/-- The first row; further ones are not looked at. -/
def queryOne (sql : String) (source : ParameterSource) (m : RowMapping) : Action κ Mapped := do
  conclude (firstOfRows (← query sql source none) m)

/-- The only row; further ones are a failure. -/
def queryOnly (sql : String) (source : ParameterSource) (m : RowMapping) : Action κ Mapped := do
  conclude (onlyRow (← query sql source none) m)

def queryOptional (sql : String) (source : ParameterSource) (m : RowMapping) :
    Action κ (Option Mapped) := do
  conclude (firstRow? (← query sql source none) m)

/-! ## Procedures -/

/-- Calls a procedure for its rows and outputs. -/
def callProcedure (p : Procedure) : Action κ ProcedureResult := do
  let c ← createProcedureCommand p none
  return .ofCommand c (← queryCommand c none)

def queryProcedure (p : Procedure) (m : RowMapping) : Action κ (List Mapped) := do
  let c ← createProcedureCommand p none
  conclude (m.applyAll (← queryCommand c none))

end Database

end SqlAccess

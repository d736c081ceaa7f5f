import SqlAccess.Command.Basic
import SqlAccess.Text.Split

/-!
# Procedure calls

A procedure is called by a query with named arguments, `SELECT * FROM name(a => $1, …)`. Its name
and the names of its arguments become part of the SQL, so only identifiers are accepted: plain ones
and ones in double quotes, and for the name several of them between points.
-/

namespace SqlAccess

structure Procedure where
  name : String
  arguments : List Parameter
  deriving Repr

namespace Procedure

def ofName (name : String) : Procedure := ⟨name, []⟩

def withArgument (p : Procedure) (a : Parameter) : Procedure :=
  { p with arguments := p.arguments ++ [a] }

def withInput (p : Procedure) (name : String) (value : Value) : Procedure :=
  p.withArgument (.input name value)

def withOutput (p : Procedure) (name : String) : Procedure :=
  p.withArgument (.output name)

def withInputOutput (p : Procedure) (name : String) (value : Value) : Procedure :=
  p.withArgument (.inputOutput name value)

def withReturnValue (p : Procedure) (name : String) : Procedure :=
  p.withArgument (.returnValue name)

end Procedure

/-! ## Identifiers -/

/-- Whether double quotes come in pairs only. -/
def quotesPaired : List Char → Bool
  | [] => true
  | '"' :: '"' :: rest => quotesPaired rest
  | c :: rest => c != '"' && quotesPaired rest

/-- An ASCII letter or underscore, followed by letters, digits, underscores and dollar signs. -/
def isPlainIdentifier : List Char → Bool
  | [] => false
  | c :: rest =>
    (c.isAlpha || c == '_') && rest.all fun d => d.isAlphanum || d == '_' || d == '$'

/-- A part of a name that may stand in SQL. One in double quotes holds a character at least, and
quotes inside it are written twice. -/
def isIdentifier (part : List Char) : Bool :=
  if 2 ≤ part.length ∧ part.head? = some '"' ∧ part.getLast? = some '"' then
    let inner := part.tail.dropLast
    !inner.isEmpty && quotesPaired inner
  else isPlainIdentifier part

def isProcedureName (name : String) : Bool :=
  (Text.splitAtEach '.' name.toList).all isIdentifier

def Error.invalidProcedureName (name : String) : Error :=
  .invalidArgument ("invalid procedure name '" ++ name ++ "'")

def Error.invalidArgumentName (argument procedure : String) : Error :=
  .invalidArgument
    ("invalid argument name '" ++ argument ++ "' for procedure '" ++ procedure ++ "'")

def checkProcedureName (name : String) : Except Error Unit :=
  if isProcedureName name then .ok () else .error (.invalidProcedureName name)

/-! ## Calls -/

/-- The input parameters with their positions, or the first whose name is no identifier. -/
def callArguments (name : String) (marker : Char) :
    List (Parameter × Nat) → Except Error (List (String × Nat))
  | [] => .ok []
  | (p, i) :: rest =>
    if p.direction.isInput then
      let argument := p.logicalName marker
      if isIdentifier argument.toList then
        (callArguments name marker rest).map ((argument, i) :: ·)
      else .error (.invalidArgumentName argument name)
    else callArguments name marker rest

/-- The query that calls a procedure, and the positions of the parameters it refers to. -/
def callSql (name : String) (marker : Char) (parameters : List Parameter) :
    Except Error Positional := do
  checkProcedureName name
  let arguments ← callArguments name marker parameters.zipIdx
  let written := arguments.mapIdx fun k (argument, _) =>
    argument ++ " => $" ++ Nat.repr (k + 1)
  return ⟨"SELECT * FROM " ++ name ++ "(" ++ ", ".intercalate written ++ ")", arguments.map (·.2)⟩

end SqlAccess

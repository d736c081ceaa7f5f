import SqlAccess.Command.Procedure

/-!
# Statements

The statement in which a command is sent: SQL with numbered references, and for each number the
position of the parameter whose value goes with it.
-/

namespace SqlAccess

namespace Command

def statement (c : Command) : Except Error Positional :=
  match c.kind with
  | .text => .ok (toPositional c.text c.marker c.parameterNames)
  | .procedure => callSql c.text c.marker c.parameters

/-- The values that a statement sends, in the order of its references. -/
def sentValues (c : Command) (p : Positional) : List Value :=
  p.order.filterMap fun i => c.parameters[i]?.map (·.value)

end Command

end SqlAccess

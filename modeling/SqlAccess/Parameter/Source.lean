import SqlAccess.Parameter.Argument
import SqlAccess.Parameter.Basic

/-!
# Sources of parameters

Where the parameters of a command come from: nowhere, the properties of an object, or a list of
ready parameters.
-/

namespace SqlAccess

inductive ParameterSource
  | empty
  /-- the properties of an object that its owner keeps -/
  | shared (properties : NamedArguments)
  /-- the properties of an object handed over -/
  | owned (properties : NamedArguments)
  | parameters (ps : List Parameter)
  deriving Repr

namespace ParameterSource

/-- The properties of an object, if there is one. -/
def ofOption {α : Type} [ToArguments α] (object : Option α) : ParameterSource :=
  match object with
  | some x => .shared (toArguments x)
  | none => .empty

/-- An object always counts as a source, also one without properties. -/
def isEmpty : ParameterSource → Bool
  | empty => true
  | parameters ps => ps.isEmpty
  | shared _ => false
  | owned _ => false

end ParameterSource

end SqlAccess

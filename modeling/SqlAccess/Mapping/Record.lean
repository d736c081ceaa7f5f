import SqlAccess.Mapping.Row
import SqlAccess.Parameter.Argument

/-!
# Records

What a declaration does for a record: its fields become named arguments, and rows are mapped onto
it. The types of the fields come in where their values do: as the argument that a field is bound
as, and as the target that its column is read in.
-/

namespace SqlAccess

namespace RecordDeclaration

/-- The arguments that a record is bound as, given that of each of its fields, where `convert` says
what the naming rules do. -/
def argumentsBy (convert : NamingRule → String → String) (d : RecordDeclaration)
    (argument : String → Argument) : Except DeclarationError NamedArguments := do
  let fields ← d.parameterFieldsBy convert
  return fields.map fun f => (f.parameter, argument f.field)

/-- The mapping of rows onto a record, given the target of each of its fields, where `convert` says
what the naming rules do. -/
def mappingBy (convert : NamingRule → String → String) (d : RecordDeclaration)
    (target : String → Target) : Except DeclarationError RowMapping := do
  let fields ← d.rowFieldsBy convert
  return .record (fields.map fun f => { f with target := target f.field })

def arguments (d : RecordDeclaration) (argument : String → Argument) :
    Except DeclarationError NamedArguments :=
  d.argumentsBy NamingRule.apply argument

def mapping (d : RecordDeclaration) (target : String → Target) :
    Except DeclarationError RowMapping :=
  d.mappingBy NamingRule.apply target

end RecordDeclaration

end SqlAccess

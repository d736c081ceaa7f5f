import SqlAccess.Mapping.Naming

/-!
# Declarations of records

A record declares how its fields are named on the server: attributes on the record and on its
fields say which names, which fields may be missing and which are left out. `rowFields` is the
mapping for reading rows, `parameterFields` the one for binding parameters; a declaration that
makes no sense is refused with the first reason met, attributes of the record first, then its
shape, then its fields in order.
-/

namespace SqlAccess

/-- An attribute: a word alone, a word with a text, or a word with anything else. -/
inductive Attribute
  | word (name : String)
  | text (name value : String)
  | other (name : String)
  deriving DecidableEq, Repr

def Attribute.name : Attribute → String
  | word name => name
  | text name _ => name
  | other name => name

inductive ItemShape
  | namedFields
  | positionalFields
  | noFields
  | alternatives
  | overlay
  deriving DecidableEq, Repr

structure FieldDeclaration where
  name : String
  attributes : List Attribute
  deriving DecidableEq, Repr

structure RecordDeclaration where
  shape : ItemShape
  attributes : List Attribute
  fields : List FieldDeclaration
  deriving DecidableEq, Repr

/-- What a declaration is read for. -/
inductive Purpose
  | readRows
  | bindParameters
  deriving DecidableEq, Repr

/-- The name under which a purpose is asked for. -/
def Purpose.name : Purpose → String
  | readRows => "FromRow"
  | bindParameters => "ToParams"

inductive DeclarationError
  | unknownRule (name : String)
  | expectedText
  | unknownRecordAttribute
  | unknownFieldAttribute
  | needsNamedFields (purpose : Purpose)
  | needsRecord (purpose : Purpose)
  | defaultOnParameter
  deriving DecidableEq, Repr

def DeclarationError.message : DeclarationError → String
  | unknownRule name => "unknown rename_all rule \"" ++ name ++ "\""
  | expectedText => "expected a string literal"
  | unknownRecordAttribute => "unknown orm container attribute"
  | unknownFieldAttribute => "unknown orm field attribute"
  | needsNamedFields purpose =>
    purpose.name ++ " can only be derived for structs with named fields"
  | needsRecord purpose => purpose.name ++ " can only be derived for structs"
  | defaultOnParameter => "#[orm(default)] only applies to FromRow"

/-! ## Attributes -/

/-- The naming rule after an attribute of the record. -/
def readRecordAttribute (_ : Option NamingRule) (a : Attribute) :
    Except DeclarationError (Option NamingRule) :=
  match a with
  | .text "rename_all" value =>
    match NamingRule.ofName? value with
    | some rule => .ok (some rule)
    | none => .error (.unknownRule value)
  | .other "rename_all" => .error .expectedText
  | _ => .error .unknownRecordAttribute

/-- What the attributes of a field say. -/
structure FieldOptions where
  explicitName : Option String
  hasDefault : Bool
  isSkipped : Bool
  deriving DecidableEq, Repr

def FieldOptions.none : FieldOptions := ⟨Option.none, false, false⟩

def readFieldAttribute (o : FieldOptions) (a : Attribute) :
    Except DeclarationError FieldOptions :=
  match a with
  | .text "column" value | .text "rename" value => .ok { o with explicitName := some value }
  | .other "column" | .other "rename" => .error .expectedText
  | .word "default" => .ok { o with hasDefault := true }
  | .word "skip" => .ok { o with isSkipped := true }
  | _ => .error .unknownFieldAttribute

def FieldDeclaration.options (f : FieldDeclaration) : Except DeclarationError FieldOptions :=
  f.attributes.foldlM readFieldAttribute .none

/-- The field's name without the mark of a name that is also a keyword. -/
def FieldDeclaration.plainName (f : FieldDeclaration) : String :=
  match f.name.toList with
  | 'r' :: '#' :: rest => String.ofList rest
  | _ => f.name

/-- The explicit name of a field, else its own name as the record renames its fields. -/
def FieldDeclaration.mappedName (f : FieldDeclaration) (o : FieldOptions)
    (rename : Option (String → String)) : String :=
  match o.explicitName, rename with
  | some name, _ => name
  | none, some rename => rename f.plainName
  | none, none => f.plainName

/-! ## Mappings -/

/-- How a field gets its value when a row is read. -/
inductive Presence
  /-- from its column, which has to be there -/
  | required
  /-- from its column, or the default of its type -/
  | optional
  /-- always the default of its type -/
  | skipped
  deriving DecidableEq, Repr

/-- A field and the column it is read from. -/
structure RowField where
  field : String
  column : String
  presence : Presence
  deriving DecidableEq, Repr

/-- A field and the parameter it is bound to. -/
structure ParameterField where
  field : String
  parameter : String
  deriving DecidableEq, Repr

def FieldDeclaration.rowField (rename : Option (String → String)) (f : FieldDeclaration) :
    Except DeclarationError RowField := do
  let o ← f.options
  if o.isSkipped then return ⟨f.name, "", .skipped⟩
  else return ⟨f.name, f.mappedName o rename, if o.hasDefault then .optional else .required⟩

/-- The parameter of a field, unless the field is skipped. -/
def FieldDeclaration.parameterField (rename : Option (String → String)) (f : FieldDeclaration) :
    Except DeclarationError (Option ParameterField) := do
  let o ← f.options
  if o.isSkipped then return none
  else if o.hasDefault then throw .defaultOnParameter
  else return some ⟨f.name, f.mappedName o rename⟩

namespace RecordDeclaration

/-- The naming rule of a record with named fields. -/
def namingRule (d : RecordDeclaration) (purpose : Purpose) :
    Except DeclarationError (Option NamingRule) := do
  let rule ← d.attributes.foldlM readRecordAttribute none
  match d.shape with
  | .namedFields => return rule
  | .positionalFields | .noFields => throw (.needsNamedFields purpose)
  | .alternatives | .overlay => throw (.needsRecord purpose)

/-- The mapping for rows, where `convert` says what the naming rules do. -/
def rowFieldsBy (convert : NamingRule → String → String) (d : RecordDeclaration) :
    Except DeclarationError (List RowField) := do
  let rule ← d.namingRule .readRows
  d.fields.mapM (·.rowField (rule.map convert))

/-- The mapping for parameters, where `convert` says what the naming rules do. -/
def parameterFieldsBy (convert : NamingRule → String → String) (d : RecordDeclaration) :
    Except DeclarationError (List ParameterField) := do
  let rule ← d.namingRule .bindParameters
  let fields ← d.fields.mapM (·.parameterField (rule.map convert))
  return fields.filterMap id

def rowFields (d : RecordDeclaration) : Except DeclarationError (List RowField) :=
  d.rowFieldsBy NamingRule.apply

def parameterFields (d : RecordDeclaration) : Except DeclarationError (List ParameterField) :=
  d.parameterFieldsBy NamingRule.apply

end RecordDeclaration

end SqlAccess

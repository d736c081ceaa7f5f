import Std.Data.TreeMap.Basic
import Std.Data.TreeSet.Basic
import SqlAccess.Value.Basic

/-!
# Arguments

An argument is what a caller binds to a name: a single value, or a list that stands for as many
placeholders as it has items. Texts and bytes are single values; every other sequence is a list.
-/

namespace SqlAccess

inductive Argument
  | scalar (value : Value)
  | list (items : List Value)
  deriving Repr

def Argument.isList : Argument → Bool
  | scalar _ => false
  | list _ => true

/-! ## Single values -/

/-- Types whose members are single values. -/
class ToValue (α : Type) where
  toValue : α → Value

export ToValue (toValue)

instance : ToValue Value := ⟨id⟩
instance : ToValue Bool := ⟨.bool⟩
instance : ToValue Int8 := ⟨fun n => .int16 n.toInt16⟩
instance : ToValue Int16 := ⟨.int16⟩
instance : ToValue Int32 := ⟨.int32⟩
instance : ToValue Int64 := ⟨.int64⟩
instance : ToValue UInt16 := ⟨fun n => .int32 (Int32.ofNat n.toNat)⟩
instance : ToValue UInt32 := ⟨fun n => .int64 (Int64.ofNat n.toNat)⟩
instance : ToValue Binary32 := ⟨.float32⟩
instance : ToValue Binary64 := ⟨.float64⟩
instance : ToValue String := ⟨.text⟩
instance : ToValue (List UInt8) := ⟨.bytes⟩
instance : ToValue Uuid := ⟨.uuid⟩
instance : ToValue DateTime := ⟨.timestamp⟩
instance : ToValue Instant := ⟨.timestamptz⟩
instance : ToValue ZonedDateTime := ⟨fun t => .timestamptz t.instant⟩
instance : ToValue Date := ⟨.date⟩
instance : ToValue Time := ⟨.time⟩
instance : ToValue Json := ⟨.ofJson⟩

instance {α : Type} [ToValue α] : ToValue (Option α) :=
  ⟨fun x => (x.map toValue).getD .null⟩

/-! ## Values and lists -/

/-- Types whose members can be bound to a name. -/
class ToArgument (α : Type) where
  toArgument : α → Argument

export ToArgument (toArgument)

/-- A type of single values. -/
@[reducible] def scalarArgument (α : Type) [ToValue α] : ToArgument α :=
  ⟨fun x => .scalar (toValue x)⟩

instance : ToArgument Value := scalarArgument _
instance : ToArgument Bool := scalarArgument _
instance : ToArgument Int16 := scalarArgument _
instance : ToArgument Int32 := scalarArgument _
instance : ToArgument Int64 := scalarArgument _
instance : ToArgument UInt16 := scalarArgument _
instance : ToArgument UInt32 := scalarArgument _
instance : ToArgument Binary32 := scalarArgument _
instance : ToArgument Binary64 := scalarArgument _
instance : ToArgument String := scalarArgument _
instance : ToArgument (List UInt8) := scalarArgument _
instance : ToArgument Uuid := scalarArgument _
instance : ToArgument DateTime := scalarArgument _
instance : ToArgument Instant := scalarArgument _
instance : ToArgument ZonedDateTime := scalarArgument _
instance : ToArgument Date := scalarArgument _
instance : ToArgument Time := scalarArgument _
instance : ToArgument Argument := ⟨id⟩

instance {α : Type} [ToValue α] : ToArgument (List α) :=
  ⟨fun xs => .list (xs.map toValue)⟩

/-- The items of a set, in ascending order. -/
instance {α : Type} {cmp : α → α → Ordering} [ToValue α] : ToArgument (Std.TreeSet α cmp) :=
  ⟨fun xs => .list (xs.toList.map toValue)⟩

/-- An array is a list of its items; any other document is a single value. -/
instance : ToArgument Json :=
  ⟨fun document =>
    match document with
    | .array items => .list (items.map Value.ofJson)
    | document => .scalar (.ofJson document)⟩

instance {α : Type} [ToArgument α] : ToArgument (Option α) :=
  ⟨fun x => (x.map toArgument).getD (.scalar .null)⟩

/-! ## Named arguments -/

/-- Arguments with their names, in the order in which they are bound. -/
abbrev NamedArguments := List (String × Argument)

/-- Types whose members have named properties that can be bound. -/
class ToArguments (α : Type) where
  toArguments : α → NamedArguments

export ToArguments (toArguments)

instance : ToArguments NamedArguments := ⟨id⟩

/-- The members of an object; any other document has no properties. -/
instance : ToArguments Json :=
  ⟨fun document =>
    match document with
    | .object members => members.map fun (name, member) => (name, toArgument member)
    | _ => []⟩

/-- The entries of a map, in ascending order of their keys. -/
instance {β : Type} [ToArgument β] : ToArguments (Std.TreeMap String β) :=
  ⟨fun m => m.toList.map fun (name, x) => (name, toArgument x)⟩

end SqlAccess

import SqlAccess.Parameter.Argument
import SqlAccess.Value.Target

/-!
# Members of targets

A target is the name of a type: of the type that its scalar names, or of that type with nothing
added to it. Save for `any` and `json`, a member of it is bound as one value, and that value is
read back as itself.
-/

namespace SqlAccess

/-- The type that a scalar type names. -/
@[reducible] def ScalarType.Carrier : ScalarType → Type
  | any => Value
  | bool => Bool
  | int16 => Int16
  | int32 => Int32
  | int64 => Int64
  | float32 => Binary32
  | float64 => Binary64
  | text => String
  | bytes => List UInt8
  | uuid => Uuid
  | timestamp => DateTime
  | timestamptz => Instant
  | date => Date
  | time => Time
  | json => Json

/-- The type that a target names. -/
@[reducible] def Target.Carrier : Target → Type
  | ⟨s, false⟩ => s.Carrier
  | ⟨s, true⟩ => Option s.Carrier

instance : (s : ScalarType) → ToValue s.Carrier
  | .any => inferInstanceAs (ToValue Value)
  | .bool => inferInstanceAs (ToValue Bool)
  | .int16 => inferInstanceAs (ToValue Int16)
  | .int32 => inferInstanceAs (ToValue Int32)
  | .int64 => inferInstanceAs (ToValue Int64)
  | .float32 => inferInstanceAs (ToValue Binary32)
  | .float64 => inferInstanceAs (ToValue Binary64)
  | .text => inferInstanceAs (ToValue String)
  | .bytes => inferInstanceAs (ToValue (List UInt8))
  | .uuid => inferInstanceAs (ToValue Uuid)
  | .timestamp => inferInstanceAs (ToValue DateTime)
  | .timestamptz => inferInstanceAs (ToValue Instant)
  | .date => inferInstanceAs (ToValue Date)
  | .time => inferInstanceAs (ToValue Time)
  | .json => inferInstanceAs (ToValue Json)

instance : (s : ScalarType) → ToArgument s.Carrier
  | .any => inferInstanceAs (ToArgument Value)
  | .bool => inferInstanceAs (ToArgument Bool)
  | .int16 => inferInstanceAs (ToArgument Int16)
  | .int32 => inferInstanceAs (ToArgument Int32)
  | .int64 => inferInstanceAs (ToArgument Int64)
  | .float32 => inferInstanceAs (ToArgument Binary32)
  | .float64 => inferInstanceAs (ToArgument Binary64)
  | .text => inferInstanceAs (ToArgument String)
  | .bytes => inferInstanceAs (ToArgument (List UInt8))
  | .uuid => inferInstanceAs (ToArgument Uuid)
  | .timestamp => inferInstanceAs (ToArgument DateTime)
  | .timestamptz => inferInstanceAs (ToArgument Instant)
  | .date => inferInstanceAs (ToArgument Date)
  | .time => inferInstanceAs (ToArgument Time)
  | .json => inferInstanceAs (ToArgument Json)

instance : (t : Target) → ToValue t.Carrier
  | ⟨s, false⟩ => inferInstanceAs (ToValue s.Carrier)
  | ⟨s, true⟩ => inferInstanceAs (ToValue (Option s.Carrier))

instance : (t : Target) → ToArgument t.Carrier
  | ⟨s, false⟩ => inferInstanceAs (ToArgument s.Carrier)
  | ⟨s, true⟩ => inferInstanceAs (ToArgument (Option s.Carrier))

/-- Whether every member of the type is bound as one value of its kind. -/
def ScalarType.isPlain : ScalarType → Bool
  | any => false
  | json => false
  | _ => true

namespace ScalarType

variable {s : ScalarType}

theorem toArgument_eq (hs : s.isPlain) (x : s.Carrier) : toArgument x = .scalar (toValue x) := by
  cases s with
  | any => cases hs
  | json => cases hs
  | _ => rfl

theorem isNull_toValue (hs : s.isPlain) (x : s.Carrier) : (toValue x).isNull = false := by
  cases s with
  | any => cases hs
  | json => cases hs
  | _ => rfl

theorem toValue_ne_null (hs : s.isPlain) (x : s.Carrier) : toValue x ≠ .null := by
  intro h
  simpa [h, Value.isNull] using isNull_toValue hs x

theorem read?_toValue (hs : s.isPlain) (x : s.Carrier) :
    s.read? (toValue x) = some (toValue x) := by
  cases s with
  | any => cases hs
  | json => cases hs
  | _ => rfl

theorem toValue_injective (hs : s.isPlain) :
    Function.Injective (toValue : s.Carrier → Value) := by
  intro x y h
  cases s with
  | any => cases hs
  | json => cases hs
  | _ => injection h

end ScalarType

namespace Target

variable {t : Target}

/-- A member of a plain target is bound as a single value. -/
theorem toArgument_eq (ht : t.scalar.isPlain) (x : t.Carrier) :
    toArgument x = .scalar (toValue x) := by
  obtain ⟨s, nullable⟩ := t
  cases nullable with
  | false => exact ScalarType.toArgument_eq ht x
  | true =>
    cases x with
    | none => rfl
    | some x => exact ScalarType.toArgument_eq ht x

/-- The value of a member of a plain target is read back as it is. -/
theorem read_toValue (ht : t.scalar.isPlain) (x : t.Carrier) :
    t.read (toValue x) = .ok (toValue x) := by
  obtain ⟨s, nullable⟩ := t
  cases nullable with
  | false => rw [read, ScalarType.read?_toValue ht x]; rfl
  | true =>
    cases x with
    | none => rfl
    | some x =>
      have hread : Target.read ⟨s, true⟩ (toValue x) = .ok (toValue x) := by
        rw [read, ScalarType.isNull_toValue ht x, ScalarType.read?_toValue ht x]
        rfl
      exact hread

/-- The value of a member of a plain target tells it from the others. -/
theorem toValue_injective (ht : t.scalar.isPlain) :
    Function.Injective (toValue : t.Carrier → Value) := by
  obtain ⟨s, nullable⟩ := t
  cases nullable with
  | false => exact ScalarType.toValue_injective ht
  | true =>
    rintro (_ | x) (_ | y) h
    · rfl
    · exact absurd h.symm (ScalarType.toValue_ne_null ht y)
    · exact absurd h (ScalarType.toValue_ne_null ht x)
    · exact congrArg some (ScalarType.toValue_injective ht h)

end Target

end SqlAccess

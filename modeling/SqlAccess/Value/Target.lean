import SqlAccess.Value.Basic

/-!
# Reading values as a wanted type

A target is the type a caller wants a value in. Integers widen, floats widen, and small integers
become floats; nothing narrows. A nullable target takes the null value; the others refuse it, save
for `any`, which takes every value as it is, and `json`, which reads it as the null document.
-/

namespace SqlAccess

inductive ScalarType
  | any
  | bool
  | int16
  | int32
  | int64
  | float32
  | float64
  | text
  | bytes
  | uuid
  | timestamp
  | timestamptz
  | date
  | time
  | json
  deriving DecidableEq, Repr

structure Target where
  scalar : ScalarType
  nullable : Bool
  deriving DecidableEq, Repr

/-- A value of kind `found` was wanted as `expected`. -/
structure ConversionError where
  expected : String
  found : String
  deriving DecidableEq, Repr

def ConversionError.message (e : ConversionError) : String :=
  "cannot convert " ++ e.found ++ " value to " ++ e.expected

namespace ScalarType

/-- The name of a type, as error texts use it. -/
def name : ScalarType → String
  | any => "value"
  | bool => "bool"
  | int16 => "i16"
  | int32 => "i32"
  | int64 => "i64"
  | float32 => "f32"
  | float64 => "f64"
  | text => "text"
  | bytes => "bytes"
  | uuid => "uuid"
  | timestamp => "timestamp"
  | timestamptz => "timestamptz"
  | date => "date"
  | time => "time"
  | json => "json"

def all : List ScalarType :=
  [any, bool, int16, int32, int64, float32, float64, text, bytes, uuid, timestamp, timestamptz,
    date, time, json]

def ofName? (name : String) : Option ScalarType :=
  all.find? (·.name == name)

theorem ofName?_name (t : ScalarType) : ofName? t.name = some t := by
  cases t <;> decide

/-- The value in the wanted type, if its kind converts. -/
def read? : ScalarType → Value → Option Value
  | any, v => some v
  | bool, .bool b => some (.bool b)
  | int16, .int16 n => some (.int16 n)
  | int32, .int16 n => some (.int32 n.toInt32)
  | int32, .int32 n => some (.int32 n)
  | int64, .int16 n => some (.int64 n.toInt64)
  | int64, .int32 n => some (.int64 n.toInt64)
  | int64, .int64 n => some (.int64 n)
  | float32, .float32 x => some (.float32 x)
  | float64, .float32 x => some (.float64 x.toBinary64)
  | float64, .float64 x => some (.float64 x)
  | float64, .int16 n => some (.float64 (.ofInt n.toInt))
  | float64, .int32 n => some (.float64 (.ofInt n.toInt))
  | text, .text s => some (.text s)
  | bytes, .bytes b => some (.bytes b)
  | uuid, .uuid u => some (.uuid u)
  | timestamp, .timestamp t => some (.timestamp t)
  | timestamp, .timestamptz t => some (.timestamp t.utc)
  | timestamp, .date d => some (.timestamp (.atMidnight d))
  | timestamptz, .timestamptz t => some (.timestamptz t)
  | timestamptz, .timestamp t => some (.timestamptz ⟨t⟩)
  | date, .date d => some (.date d)
  | time, .time t => some (.time t)
  | json, .json document => some (.json document)
  | json, .null => some (.json .null)
  | json, .bool b => some (.json (.bool b))
  | json, .int16 n => some (.json (.number (.ofInt64 n.toInt64)))
  | json, .int32 n => some (.json (.number (.ofInt64 n.toInt64)))
  | json, .int64 n => some (.json (.number (.ofInt64 n)))
  | json, .text s => some (.json (.string s))
  | _, _ => none

/-- The value a field of this type has when nothing is read into it. -/
def default : ScalarType → Value
  | any => .null
  | bool => .bool false
  | int16 => .int16 0
  | int32 => .int32 0
  | int64 => .int64 0
  | float32 => .float32 ⟨0⟩
  | float64 => .float64 ⟨0⟩
  | text => .text ""
  | bytes => .bytes []
  | uuid => .uuid .nil
  | timestamp => .timestamp (.atMidnight .epoch)
  | timestamptz => .timestamptz ⟨.atMidnight .epoch⟩
  | date => .date .epoch
  | time => .time .midnight
  | json => .json .null

end ScalarType

namespace Target

def read (t : Target) (v : Value) : Except ConversionError Value :=
  if t.nullable && v.isNull then .ok .null
  else
    match t.scalar.read? v with
    | some w => .ok w
    | none => .error ⟨t.scalar.name, v.typeName⟩

def default (t : Target) : Value :=
  if t.nullable then .null else t.scalar.default

end Target

end SqlAccess

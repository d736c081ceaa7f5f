import SqlAccess.Calendar.DateTime
import SqlAccess.Json.Basic
import SqlAccess.Uuid

/-!
# Values

A value is what a parameter carries to the server and what a cell of a result holds. Integers and
floats keep the width in which they came.
-/

namespace SqlAccess

inductive Value
  | null
  | bool (b : Bool)
  | int16 (n : Int16)
  | int32 (n : Int32)
  | int64 (n : Int64)
  | float32 (x : Binary32)
  | float64 (x : Binary64)
  | text (s : String)
  | bytes (b : List UInt8)
  | uuid (u : Uuid)
  /-- a point in time without a zone -/
  | timestamp (t : DateTime)
  | timestamptz (t : Instant)
  | date (d : Date)
  | time (t : Time)
  | json (document : Json)
  deriving Repr

namespace Value

instance : Inhabited Value := ⟨null⟩

def isNull : Value → Bool
  | null => true
  | _ => false

/-- The name of the kind of a value, as error texts use it. -/
def typeName : Value → String
  | null => "NULL"
  | bool _ => "bool"
  | int16 _ => "i16"
  | int32 _ => "i32"
  | int64 _ => "i64"
  | float32 _ => "f32"
  | float64 _ => "f64"
  | text _ => "text"
  | bytes _ => "bytes"
  | uuid _ => "uuid"
  | timestamp _ => "timestamp"
  | timestamptz _ => "timestamptz"
  | date _ => "date"
  | time _ => "time"
  | json _ => "json"

/-- The value of a JSON document: scalars become the matching kind, an integer beyond 64 signed
bits becomes its digits, arrays and objects stay documents. -/
def ofJson : Json → Value
  | .null => null
  | .bool b => bool b
  | .number (.unsigned n) =>
    if n.toNat < 0x8000000000000000 then int64 n.toInt64 else text (Nat.repr n.toNat)
  | .number (.negative n _) => int64 n
  | .number (.float x _) => float64 x
  | .string s => text s
  | document => json document

end Value

end SqlAccess

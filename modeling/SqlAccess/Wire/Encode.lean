import SqlAccess.Json.Parser
import SqlAccess.Value.Display
import SqlAccess.Wire.Bytes
import SqlAccess.Wire.ServerType

/-!
# Parameters as bytes

A value is encoded for the type that the server wants. Integers go into any numeric type that
holds them and floats into either float type; both become text for the text types. Texts become
documents, UUIDs or labels of enumerations, and points in time move between the types for them.
Everything else has to match the type.
-/

namespace SqlAccess

inductive EncodeError
  /-- the kind of the value does not go with the type -/
  | wrongType
  /-- the type does not hold the integer -/
  | outOfRange
  /-- the text is no JSON document -/
  | invalidJson
  /-- the text is no UUID -/
  | invalidUuid
  deriving DecidableEq, Repr

/-- The version byte that some types put in front of their text. -/
def versionByte : UInt8 := 1

/-- A text for a type that accepts texts. -/
def encodeText (s : String) (t : ServerType) : List UInt8 :=
  if t.hasTextVersion then versionByte :: utf8 s else utf8 s

def encodeJson (document : Json) (t : BuiltinType) : List UInt8 :=
  if t = .jsonb then versionByte :: utf8 document.text else utf8 document.text

/-- `n` in `width` bytes, if it lies between `low` and `high`. -/
def encodeWithin (low high : Int) (width : Nat) (n : Int) : Except EncodeError (List UInt8) :=
  if low ≤ n ∧ n ≤ high then .ok (signedBigEndian width n) else .error .outOfRange

def Binary32.encode (x : Binary32) : List UInt8 := bigEndian 4 x.bits.toNat

def Binary64.encode (x : Binary64) : List UInt8 := bigEndian 8 x.bits.toNat

/-- An integer of any width. -/
def encodeInt (n : Int) : ServerType → Except EncodeError (List UInt8)
  | .builtin .int2 => encodeWithin Int16.minValue.toInt Int16.maxValue.toInt 2 n
  | .builtin .int4 => encodeWithin Int32.minValue.toInt Int32.maxValue.toInt 4 n
  | .builtin .int8 => encodeWithin Int64.minValue.toInt Int64.maxValue.toInt 8 n
  | .builtin .oid => encodeWithin 0 0xFFFFFFFF 4 n
  | .builtin .float4 => .ok (Binary32.ofInt n).encode
  | .builtin .float8 => .ok (Binary64.ofInt n).encode
  | .builtin .text | .builtin .varchar | .builtin .bpchar => .ok (utf8 (toString n))
  | _ => .error .wrongType

/-- A float of either width, held in the wider one. -/
def encodeFloat (x : Binary64) : ServerType → Except EncodeError (List UInt8)
  | .builtin .float4 => .ok x.toBinary32.encode
  | .builtin .float8 => .ok x.encode
  | .builtin .text | .builtin .varchar | .builtin .bpchar => .ok (utf8 x.display)
  | _ => .error .wrongType

def encodeString (s : String) : ServerType → Except EncodeError (List UInt8)
  | .builtin .json =>
    match Json.parse s with
    | some document => .ok (encodeJson document .json)
    | none => .error .invalidJson
  | .builtin .jsonb =>
    match Json.parse s with
    | some document => .ok (encodeJson document .jsonb)
    | none => .error .invalidJson
  | .builtin .uuid =>
    match Uuid.parse? s with
    | some u => .ok u.octets
    | none => .error .invalidUuid
  | .enumeration _ _ => .ok (utf8 s)
  | t => if t.acceptsText then .ok (encodeText s t) else .error .wrongType

/-- A point in time, with or without a zone. -/
def encodeDateTime (p : DateTime) : ServerType → Except EncodeError (List UInt8)
  | .builtin .timestamp | .builtin .timestamptz => .ok (signedBigEndian 8 p.toMicros)
  | .builtin .date => .ok (signedBigEndian 4 p.date.toDays)
  | _ => .error .wrongType

namespace Value

/-- The bytes of a value that is not null. -/
def encodePresent (v : Value) (t : ServerType) : Except EncodeError (List UInt8) :=
  match v, t with
  | .bool b, .builtin .bool => .ok [if b then 1 else 0]
  | .int16 n, t => encodeInt n.toInt t
  | .int32 n, t => encodeInt n.toInt t
  | .int64 n, t => encodeInt n.toInt t
  | .float32 x, t => encodeFloat x.toBinary64 t
  | .float64 x, t => encodeFloat x t
  | .text s, t => encodeString s t
  | .bytes b, .builtin .bytea => .ok b
  | .uuid u, .builtin .uuid => .ok u.octets
  | .uuid u, .builtin .text | .uuid u, .builtin .varchar => .ok (utf8 u.text)
  | .timestamp p, t => encodeDateTime p t
  | .timestamptz p, t => encodeDateTime p.utc t
  | .date d, .builtin .date => .ok (signedBigEndian 4 d.toDays)
  | .date d, .builtin .timestamp => .ok (signedBigEndian 8 (DateTime.atMidnight d).toMicros)
  | .time p, .builtin .time => .ok (signedBigEndian 8 p.toMicros)
  | .json document, .builtin .json => .ok (encodeJson document .json)
  | .json document, .builtin .jsonb => .ok (encodeJson document .jsonb)
  | .json document, .builtin .text | .json document, .builtin .varchar => .ok (utf8 document.text)
  | _, _ => .error .wrongType

/-- The parameter that a value becomes for a type; null is the absent one for every type. -/
def encode (v : Value) (t : ServerType) : Except EncodeError (Option (List UInt8)) :=
  if v.isNull then .ok none else (v.encodePresent t).map some

theorem encode_eq_some_iff {v : Value} {t : ServerType} {bytes : List UInt8} :
    v.encode t = .ok (some bytes) ↔ v.encodePresent t = .ok bytes := by
  cases hnull : v.isNull with
  | true =>
    cases v with
    | null => simp [encode, isNull, encodePresent]
    | _ => cases hnull
  | false => cases h : v.encodePresent t <;> simp [encode, hnull, h, Except.map]

end Value

end SqlAccess

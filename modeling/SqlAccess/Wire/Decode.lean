import SqlAccess.Json.Parser
import SqlAccess.Value.Basic
import SqlAccess.Wire.Bytes
import SqlAccess.Wire.ServerType

/-!
# Cells as values

A cell is decoded by the type of its column. Numbers and points in time need their exact width,
texts and documents valid UTF-8; enumerations and case-insensitive texts are read as text.
-/

namespace SqlAccess

namespace ServerType

/-- The document that a text in UTF-8 holds. -/
def decodeJson? (bytes : List UInt8) : Option Value := do
  let document ← Json.parse (← ofUtf8? bytes)
  return .json document

def decodeText? (bytes : List UInt8) : Option Value :=
  (ofUtf8? bytes).map .text

/-- `bytes` as an integer of exactly `width` bytes. -/
def decodeSigned? (width : Nat) (bytes : List UInt8) : Option Int :=
  if bytes.length = width then some (ofSignedBigEndian bytes) else none

def decodeUnsigned? (width : Nat) (bytes : List UInt8) : Option Nat :=
  if bytes.length = width then some (ofBigEndian bytes) else none

end ServerType

/-- How the cells of a type are read; none for a type whose columns are not supported. -/
def BuiltinType.decoder? : BuiltinType → Option (List UInt8 → Option Value)
  | .bool => some fun bytes =>
    match bytes with
    | [b] => some (.bool (b != 0))
    | _ => none
  | .int2 => some fun bytes =>
    (ServerType.decodeSigned? 2 bytes).map fun n => .int16 (Int16.ofInt n)
  | .int4 => some fun bytes =>
    (ServerType.decodeSigned? 4 bytes).map fun n => .int32 (Int32.ofInt n)
  | .int8 => some fun bytes =>
    (ServerType.decodeSigned? 8 bytes).map fun n => .int64 (Int64.ofInt n)
  | .oid => some fun bytes =>
    (ServerType.decodeUnsigned? 4 bytes).map fun n => .int64 (Int64.ofNat n)
  | .float4 => some fun bytes =>
    (ServerType.decodeUnsigned? 4 bytes).map fun n => .float32 ⟨UInt32.ofNat n⟩
  | .float8 => some fun bytes =>
    (ServerType.decodeUnsigned? 8 bytes).map fun n => .float64 ⟨UInt64.ofNat n⟩
  | .text | .varchar | .bpchar | .name | .unknown => some ServerType.decodeText?
  | .bytea => some fun bytes => some (.bytes bytes)
  | .uuid => some fun bytes => (Uuid.ofOctets? bytes).map .uuid
  | .timestamp => some fun bytes => do
    let p ← DateTime.ofMicros? (← ServerType.decodeSigned? 8 bytes)
    return .timestamp p
  | .timestamptz => some fun bytes => do
    let p ← DateTime.ofMicros? (← ServerType.decodeSigned? 8 bytes)
    return .timestamptz ⟨p⟩
  | .date => some fun bytes => do
    let d ← Date.ofDays? (← ServerType.decodeSigned? 4 bytes)
    return .date d
  | .time => some fun bytes =>
    (ServerType.decodeSigned? 8 bytes).map fun n => .time (Time.ofMicros n)
  | .json => some ServerType.decodeJson?
  | .jsonb => some fun bytes =>
    match bytes with
    | version :: rest => if version = 1 then ServerType.decodeJson? rest else none
    | [] => none
  | _ => none

/-- How the cells of a type are read; none for a type whose columns are not supported. -/
def ServerType.decoder? (t : ServerType) : Option (List UInt8 → Option Value) :=
  match t with
  | .builtin type => type.decoder?
  | t => if t.isEnumeration || t.name == "citext" then some decodeText? else none

end SqlAccess

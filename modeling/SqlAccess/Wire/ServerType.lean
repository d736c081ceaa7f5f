/-!
# Server types

The types that parameters and columns have on the server: the built-in ones, and those that a
database defines for itself, which are known by name and kind only.
-/

namespace SqlAccess

inductive BuiltinType
  | bool
  | int2
  | int4
  | int8
  | oid
  | float4
  | float8
  | numeric
  | text
  | varchar
  | bpchar
  | name
  | unknown
  | bytea
  | uuid
  | timestamp
  | timestamptz
  | date
  | time
  | timetz
  | interval
  | json
  | jsonb
  | xml
  | inet
  | int4Array
  | textArray
  deriving DecidableEq, Repr

def BuiltinType.typeName : BuiltinType → String
  | bool => "bool"
  | int2 => "int2"
  | int4 => "int4"
  | int8 => "int8"
  | oid => "oid"
  | float4 => "float4"
  | float8 => "float8"
  | numeric => "numeric"
  | text => "text"
  | varchar => "varchar"
  | bpchar => "bpchar"
  | name => "name"
  | unknown => "unknown"
  | bytea => "bytea"
  | uuid => "uuid"
  | timestamp => "timestamp"
  | timestamptz => "timestamptz"
  | date => "date"
  | time => "time"
  | timetz => "timetz"
  | interval => "interval"
  | json => "json"
  | jsonb => "jsonb"
  | xml => "xml"
  | inet => "inet"
  | int4Array => "_int4"
  | textArray => "_text"

namespace BuiltinType

def all : List BuiltinType :=
  [bool, int2, int4, int8, oid, float4, float8, numeric, text, varchar, bpchar, name, unknown,
    bytea, uuid, timestamp, timestamptz, date, time, timetz, interval, json, jsonb, xml, inet,
    int4Array, textArray]

def ofName? (name : String) : Option BuiltinType :=
  all.find? (·.typeName == name)

theorem mem_all (t : BuiltinType) : t ∈ all := by
  cases t <;> decide

theorem ofName?_typeName (t : BuiltinType) : ofName? t.typeName = some t := by
  cases t <;> decide

end BuiltinType

inductive ServerType
  | builtin (type : BuiltinType)
  /-- a base type that an extension brings along, or any other type of which only the name
  matters -/
  | extension (name : String)
  | enumeration (name : String) (labels : List String)
  | domain (name : String) (base : ServerType)
  deriving DecidableEq, Repr

namespace ServerType

def name : ServerType → String
  | builtin type => type.typeName
  | extension name => name
  | enumeration name _ => name
  | domain name _ => name

def isEnumeration : ServerType → Bool
  | enumeration _ _ => true
  | _ => false

def isBuiltin : ServerType → Bool
  | builtin _ => true
  | _ => false

/-- Whether a text travels with a version byte in front. -/
def hasTextVersion (t : ServerType) : Bool :=
  t.name == "ltree" || t.name == "lquery" || t.name == "ltxtquery"

/-- Whether a text is accepted as it is. -/
def acceptsText (t : ServerType) : Bool :=
  match t with
  | builtin .varchar | builtin .text | builtin .bpchar | builtin .name | builtin .unknown => true
  | t => t.name == "citext" || t.hasTextVersion

end ServerType

end SqlAccess

import SqlAccess.Error
import SqlAccess.Value.Target

/-!
# Rows

A row pairs the columns of a result with values. A column is found by its name exactly, else by a
name that differs in the case of ASCII letters only; of several the first one counts.
-/

namespace SqlAccess

/-- A name with its ASCII letters in lower case. -/
def foldCase (name : String) : List Char :=
  name.toList.map Char.toLower

def findColumn? (columns : List String) (name : String) : Option Nat :=
  match columns.idxOf? name with
  | some i => some i
  | none => columns.findIdx? fun c => foldCase c == foldCase name

structure Row where
  columns : List String
  values : List Value
  width_eq : values.length = columns.length
  deriving Repr

namespace Error

def rowWidth (values columns : Nat) : Error :=
  .invalidArgument
    ("row has " ++ Nat.repr values ++ " values for " ++ Nat.repr columns ++ " columns")

def ordinalOutOfRow (ordinal columns : Nat) : Error :=
  .invalidArgument
    ("ordinal " ++ Nat.repr ordinal ++ " is out of range (" ++ Nat.repr columns ++ " columns)")

def columnNotFound (name : String) : Error :=
  .decode name "column not found"

end Error

namespace Row

def ofValues (columns : List String) (values : List Value) : Except Error Row :=
  if h : values.length = columns.length then .ok ⟨columns, values, h⟩
  else .error (.rowWidth values.length columns.length)

def ordinal? (r : Row) (name : String) : Option Nat :=
  findColumn? r.columns name

def value (r : Row) (i : Nat) : Except Error Value :=
  match r.values[i]? with
  | some v => .ok v
  | none => .error (.ordinalOutOfRow i r.values.length)

/-- The ordinal of a column that has to be there. -/
def requireOrdinal (r : Row) (name : String) : Except Error Nat :=
  match r.ordinal? name with
  | some i => .ok i
  | none => .error (.columnNotFound name)

def valueNamed (r : Row) (name : String) : Except Error Value := do
  r.value (← r.requireOrdinal name)

def isNull (r : Row) (i : Nat) : Except Error Bool := do
  let v ← r.value i
  return v.isNull

/-- The value at `i` in the wanted type; a failure names the column as the row spells it. -/
def read (r : Row) (i : Nat) (t : Target) : Except Error Value := do
  let v ← r.value i
  match t.read v with
  | .ok w => return w
  | .error e => throw (.decode (r.columns[i]?.getD "") e.message)

def readNamed (r : Row) (name : String) (t : Target) : Except Error Value := do
  r.read (← r.requireOrdinal name) t

/-- The value of a column in the wanted type, or the type's default if there is no such column. -/
def readNamedOrDefault (r : Row) (name : String) (t : Target) : Except Error Value :=
  match r.ordinal? name with
  | some i => r.read i t
  | none => .ok t.default

end Row

end SqlAccess

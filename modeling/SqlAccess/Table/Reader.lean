import SqlAccess.Table.Basic

/-!
# Forward-only readers

A reader walks over the rows of a table once. `read` loads the next row, whose fields can then be
looked at; `next` takes the next row without loading it, and leaves none loaded.
-/

namespace SqlAccess

structure Reader where
  columns : List String
  /-- the rows that have not been delivered yet -/
  remaining : List Row
  current? : Option Row

namespace Error

def singleResultSet : Error := .notSupported "DataReader holds a single result set"

def noCurrentRow : Error := .invalidOperation "no current row; call read() first"

def ordinalOutOfRange (ordinal : Nat) : Error :=
  .invalidArgument ("ordinal " ++ Nat.repr ordinal ++ " is out of range")

def noSuchColumn (name : String) : Error :=
  .invalidArgument ("column '" ++ name ++ "' not found")

def bufferRequired : Error := .invalidArgument "destination buffer is required"

def notBytes (column : String) (v : Value) : Error :=
  .decode column ("cannot read bytes from " ++ v.typeName ++ " value")

end Error

namespace Reader

def ofTable (t : Table) : Reader := ⟨t.columns, t.rows, none⟩

/-- Loads the next row, if there is one, and says whether there was. -/
def read (r : Reader) : Bool × Reader :=
  (!r.remaining.isEmpty, ⟨r.columns, r.remaining.tail, r.remaining.head?⟩)

/-- Takes the next row. -/
def next (r : Reader) : Option Row × Reader :=
  (r.remaining.head?, ⟨r.columns, r.remaining.tail, none⟩)

/-- Whether a row is loaded or one is left. -/
def hasRows (r : Reader) : Bool :=
  r.current?.isSome || !r.remaining.isEmpty

/-- There is never another result. -/
def nextResult (_ : Reader) : Except Error Bool :=
  .error .singleResultSet

def fieldCount (r : Reader) : Nat := r.columns.length

def name (r : Reader) (i : Nat) : Except Error String :=
  match r.columns[i]? with
  | some c => .ok c
  | none => .error (.ordinalOutOfRange i)

def ordinal (r : Reader) (name : String) : Except Error Nat :=
  match findColumn? r.columns name with
  | some i => .ok i
  | none => .error (.noSuchColumn name)

/-- The loaded row. -/
def current (r : Reader) : Except Error Row :=
  match r.current? with
  | some row => .ok row
  | none => .error .noCurrentRow

def value (r : Reader) (i : Nat) : Except Error Value := do
  (← r.current).value i

def isNull (r : Reader) (i : Nat) : Except Error Bool := do
  (← r.current).isNull i

def get (r : Reader) (i : Nat) (t : Target) : Except Error Value := do
  (← r.current).read i t

def getNamed (r : Reader) (name : String) (t : Target) : Except Error Value := do
  (← r.current).readNamed name t

/-! ## Bytes -/

/-- How many bytes of `bytes` from `offset` on go into a buffer of `capacity`. -/
def copyCount (bytes : List UInt8) (offset capacity : Nat) : Nat :=
  min (bytes.length - offset) capacity

/-- Copies the bytes of a field from `offset` on to the front of `buffer`; gives their number and
the buffer after it. -/
def getBytes (r : Reader) (i offset : Nat) (buffer : Option (List UInt8)) :
    Except Error (Nat × List UInt8) := do
  let some buffer := buffer | throw .bufferRequired
  let name ← r.name i
  match ← r.value i with
  | .bytes bytes =>
    let n := copyCount bytes offset buffer.length
    return (n, (bytes.drop offset).take n ++ buffer.drop n)
  | v => throw (.notBytes name v)

def bytesLength (r : Reader) (i : Nat) : Except Error Nat := do
  match ← r.value i with
  | .bytes bytes => return bytes.length
  | v => throw (.notBytes (← r.name i) v)

end Reader

end SqlAccess

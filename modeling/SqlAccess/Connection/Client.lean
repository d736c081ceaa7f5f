import SqlAccess.Command.Statement
import SqlAccess.Connection.Address
import SqlAccess.Connection.Basic
import SqlAccess.Text.Digits
import SqlAccess.Wire.Decode
import SqlAccess.Wire.Encode

/-!
# Client connections

A client prepares a statement on the server, sends the parameters in the types that the server
wants, and decodes the rows by the types of their columns. The server is given by its next answer,
which also says whether a new line to it can be had, and what reaches it is kept.
-/

namespace SqlAccess

/-- Where a statement fails. -/
inductive FailurePoint
  | prepare
  | execute
  deriving DecidableEq, Repr

/-- How the server answers the next call. -/
structure ServerAnswer where
  /-- the types of the statement's parameters -/
  parameterTypes : List ServerType
  columns : List (String × ServerType)
  /-- the cells, null for the absent ones -/
  rows : List (List (Option (List UInt8)))
  /-- what the server says it has done -/
  tag : String
  failure : Option (FailurePoint × ServerFailure)
  /-- the time until the answer is there; none if it comes at once -/
  delay : Option Duration := none
  /-- why no new line to the server can be had; none if one can -/
  refusal : Option String := some "error connecting to server"

/-- What has reached the server. -/
structure Sent where
  sql : Option String
  parameters : Option (List (Option (List UInt8)))
  deriving DecidableEq, Repr

/-- The client's line to the server. -/
inductive Link
  | none
  | live
  /-- the server has hung up -/
  | lost
  deriving DecidableEq, Repr

structure Client where
  address : String
  link : Link
  answer : ServerAnswer
  sent : Sent

namespace Error

def linkLost : Error := .connection "connection is broken"

def linkClosed : Error := .invalidOperation "connection is closed"

def alreadyOpen : Error := .invalidOperation "connection is already open"

def sqlEncoding : Error := .query "error encoding message to server" none

def parameterCount (expected got : Nat) : Error :=
  .query ("expected " ++ Nat.repr expected ++ " parameters but got " ++ Nat.repr got) none

def parameterEncoding (i : Nat) : Error :=
  .query ("error serializing parameter " ++ Nat.repr i) none

def unsupportedColumn (column : String) (t : ServerType) : Error :=
  .decode column ("unsupported column type " ++ t.name)

def cellDecoding (column : String) (i : Nat) : Error :=
  .decode column ("error deserializing column " ++ Nat.repr i)

end Error

/-! ## Parameters -/

/-- Encodes values for their types, of which the first is parameter `i`. -/
def encodeParameters (i : Nat) :
    List (Value × ServerType) → Except Error (List (Option (List UInt8)))
  | [] => .ok []
  | (v, t) :: rest =>
    match v.encode t with
    | .ok cell => (encodeParameters (i + 1) rest).map (cell :: ·)
    | .error _ => .error (.parameterEncoding i)

/-! ## Rows -/

/-- The value of the cell in column `i`. -/
def decodeCell (column : String) (t : ServerType) (i : Nat) (cell : Option (List UInt8)) :
    Except Error Value :=
  match t.decoder?, cell with
  | none, _ => .error (.unsupportedColumn column t)
  | some _, none => .ok .null
  | some decode, some bytes =>
    match decode bytes with
    | some v => .ok v
    | none => .error (.cellDecoding column i)

def decodeRow (columns : List (String × ServerType)) (cells : List (Option (List UInt8))) :
    Except Error (List Value) :=
  (columns.zip cells).zipIdx.mapM fun (((column, t), cell), i) => decodeCell column t i cell

def decodeTable (columns : List (String × ServerType))
    (rows : List (List (Option (List UInt8)))) : Except Error Table :=
  rows.foldlM (fun t cells => do t.push (← decodeRow columns cells))
    (.empty (columns.map (·.1)))

/-- The number of rows that a tag ends in; zero if it ends in something else. -/
def affectedRows (tag : String) : Nat :=
  let word := (tag.toList.reverse.takeWhile (· != ' ')).reverse
  (Text.natBelow? UInt64.size word).getD 0

/-! ## Calls -/

namespace Client

def state (c : Client) : ConnectionState :=
  match c.link with
  | .none => .closed
  | .live => .open
  | .lost => .broken

/-- Fails unless the server can be reached. -/
def requireLink (c : Client) : Except Error Unit :=
  match c.link with
  | .live => .ok ()
  | .lost => .error .linkLost
  | .none => .error .linkClosed

/-- Fails on SQL that no message can hold: a zero character ends the text in a message. -/
def requireEncodable (sql : String) : Except Error Unit :=
  if sql.toList.contains '\x00' then .error .sqlEncoding else .ok ()

/-- The server's failure at a point, as an error. -/
def failureAt (c : Client) (at' : FailurePoint) : Except Error Unit :=
  match c.answer.failure with
  | some (p, f) => if p = at' then .error f.toError else .ok ()
  | none => .ok ()

def withSentSql (c : Client) (sql : String) : Client :=
  { c with sent := { c.sent with sql := some sql } }

def withSentParameters (c : Client) (cells : List (Option (List UInt8))) : Client :=
  { c with sent := { c.sent with parameters := some cells } }

/-- The parameters of a statement in the types that the server wants. -/
def encodeFor (c : Client) (command : Command) (p : Positional) :
    Except Error (List (Option (List UInt8))) :=
  let types := c.answer.parameterTypes
  if types.length = p.order.length then
    encodeParameters 0 ((command.sentValues p).zip types)
  else .error (.parameterCount types.length p.order.length)

/-- The statement of a command, if it can be sent. -/
def statementFor (c : Client) (command : Command) : Except Error Positional := do
  c.requireLink
  let p ← command.statement
  requireEncodable p.sql
  return p

/-- Runs a command; `finish` reads the answer of a statement that succeeds. The answer takes its
time only where the statement has been sent. -/
def run {α : Type} (c : Client) (command : Command) (finish : ServerAnswer → Except Error α) :
    Pending α × Client :=
  match c.statementFor command with
  | .error e => (⟨none, .error e⟩, c)
  | .ok p =>
    let c := c.withSentSql p.sql
    match (do c.failureAt .prepare; c.encodeFor command p) with
    | .error e => (⟨c.answer.delay, .error e⟩, c)
    | .ok cells =>
      let c := c.withSentParameters cells
      (⟨c.answer.delay, do c.failureAt .execute; finish c.answer⟩, c)

def batch (c : Client) (sql : String) : Except Error Unit × Client :=
  match (do c.requireLink; requireEncodable sql) with
  | .error e => (.error e, c)
  | .ok () =>
    let failure :=
      match c.answer.failure with
      | some (_, f) => .error f.toError
      | none => .ok ()
    (failure, c.withSentSql sql)

/-- Fails unless a new line to the server can be had. -/
def newLine (c : Client) : Except Error Unit :=
  match c.answer.refusal with
  | some reason => .error (.connection reason)
  | none => .ok ()

/-- Fails unless the client, which must not be open, gets a line to where its address leads. -/
def reach (c : Client) : Except Error Unit :=
  if c.state.isOpen then .error .alreadyOpen
  else
    match Address.resolve c.address with
    | .error e => .error (.connection e.message)
    | .ok _ => c.newLine

/-- Puts a new line in the place of none or of a lost one. -/
def connect (c : Client) : Except Error Unit × Client :=
  match c.reach with
  | .error e => (.error e, c)
  | .ok () => (.ok (), { c with link := .live })

/-- A statement is given up through a second line to the server, also where the first is lost;
without a line there is nothing to give up. -/
def cancel (c : Client) : Except Error Unit :=
  match c.link with
  | .none => .ok ()
  | _ => c.newLine

/-- The server goes away. -/
def hangUp (c : Client) : Client :=
  if c.link = .live then { c with link := .lost } else c

/-- The client with the server's next answer, and nothing sent since. -/
def awaiting (c : Client) (answer : ServerAnswer) : Client :=
  { c with answer, sent := ⟨none, none⟩ }

/-- The answer of a server that has nothing to say and takes no new line. -/
def silent : ServerAnswer where
  parameterTypes := []
  columns := []
  rows := []
  tag := "SELECT 1"
  failure := none

/-- A client that is not connected. -/
def closed (address : String) : Client :=
  ⟨address, .none, silent, ⟨none, none⟩⟩

/-- A client whose server answers. -/
def connected (address : String) : Client :=
  ⟨address, .live, silent, ⟨none, none⟩⟩

/-- The address in the environment, as a client that is not connected. -/
def ofEnvironment (environment : String → Option String) : Except Error Client :=
  match environment "DATABASE_URL" with
  | some url => .ok (closed url)
  | none => .error (.connection "DATABASE_URL is not set")

instance : Connection Client where
  description := (·.address)
  state := state
  connect := connect
  disconnect c := (.ok (), { c with link := .none })
  batch sql c := c.batch sql
  execute command c := c.run command fun answer => .ok (affectedRows answer.tag)
  query command c := c.run command fun answer => decodeTable answer.columns answer.rows
  cancel c := (c.cancel, c)

end Client

end SqlAccess

import SqlAccess.Connection.Basic
import SqlAccess.Database.Log

/-!
# Database objects

A database object owns a connection and the transaction open on it. Its operations are state
transformers that may fail; a journal keeps the calls they make on the connection and the events
they log. Once disposed of, an object refuses everything.
-/

namespace SqlAccess

structure Database (κ : Type) where
  connection : κ
  transaction : Option Transaction
  isDisposed : Bool
  settings : Settings
  /-- the number of the next transaction -/
  nextTransaction : Nat

/-- A database object with what has been done through it. -/
structure Journal (κ : Type) where
  database : Database κ
  calls : List ConnectionCall
  events : List LogEvent

/-- A step that may fail; the journal keeps what was done up to the failure. -/
abbrev Action (κ : Type) := ExceptT Error (StateM (Journal κ))

namespace Error

def connectionNotOpen (s : ConnectionState) : Error :=
  .invalidOperation ("connection is " ++ s.name ++ "; open it first")

def replaceInTransaction : Error :=
  .invalidOperation "cannot replace the connection while a transaction is active"

def transactionActive : Error := .invalidOperation "a transaction is already active"

def noTransaction : Error := .invalidOperation "no transaction is active"

def transactionOver : Error := .invalidOperation "command's transaction is no longer active"

def outsideTransaction : Error :=
  .invalidOperation "command must be part of the active transaction"

def otherTransaction : Error :=
  .invalidOperation "command belongs to a different transaction"

end Error

namespace Database

variable {κ α : Type}

/-- An object with the default settings. -/
def ofConnection (connection : κ) : Database κ :=
  ⟨connection, none, false, .default, 0⟩

/-- An object with settings of its own, unless they are refused. -/
def ofSettings (connection : κ) (settings : Settings) : Except Error (Database κ) := do
  settings.validate
  return ⟨connection, none, false, settings, 0⟩

/-! ## Elementary steps -/

def current : Action κ (Database κ) := return (← get).database

def modifyDatabase (f : Database κ → Database κ) : Action κ Unit :=
  modify fun j => { j with database := f j.database }

def log (e : LogEvent) : Action κ Unit :=
  modify fun j => { j with events := j.events ++ [e] }

/-- Makes a call on the connection. -/
def call (c : ConnectionCall) (f : κ → α × κ) : Action κ α := do
  let j ← get
  let (a, connection) := f j.database.connection
  set { j with database := { j.database with connection }, calls := j.calls ++ [c] }
  return a

/-- Succeeds or fails as a result says. -/
def conclude (result : Except Error α) : Action κ α := MonadExcept.ofExcept result

/-- Runs an action on an object with a fresh journal. -/
def perform (a : Action κ α) (d : Database κ) : Except Error α × Journal κ :=
  a.run.run ⟨d, [], []⟩

variable [Connection κ]

def connect : Action κ Unit := do
  conclude (← call .connect Connection.connect)

def disconnect : Action κ Unit := do
  conclude (← call .disconnect Connection.disconnect)

/-- Sends statements; whether they fail is left to the caller. -/
def callBatch (sql : String) : Action κ (Except Error Unit) :=
  call (.batch sql) (Connection.batch sql)

/-! ## Checks -/

/-- Fails once the object is disposed of. -/
def requireUsable : Action κ (Database κ) := do
  let d ← current
  if d.isDisposed then throw .disposed
  return d

/-- Fails unless the object is usable and its connection open. -/
def requireOpen : Action κ (Database κ) := do
  let d ← requireUsable
  let state := Connection.state d.connection
  if !state.isOpen then throw (.connectionNotOpen state)
  return d

def requireTransaction : Action κ Transaction := do
  match (← current).transaction with
  | some t => return t
  | none => throw .noTransaction

/-! ## The connection -/

/-- The connection itself, for use beside the object. -/
def heldConnection : Action κ κ := do
  return (← requireUsable).connection

def connectionString : Action κ String := do
  return Connection.description (← requireUsable).connection

def connectionState : Action κ ConnectionState := do
  return Connection.state (← requireUsable).connection

/-- Puts another connection in the place of the present one. -/
def setConnection (connection : κ) : Action κ Unit := do
  let d ← requireUsable
  if d.transaction.isSome then throw .replaceInTransaction
  modifyDatabase fun d => { d with connection }

def openConnection : Action κ Unit := do
  let _ ← requireUsable
  connect

/-- Forgets the active transaction, and rolls it back if the connection is still open. -/
def abandonTransaction : Action κ Unit := do
  let d ← current
  if d.transaction.isSome then
    modifyDatabase fun d => { d with transaction := none }
    if (Connection.state d.connection).isOpen then
      match ← callBatch Transaction.rollbackSql with
      | .ok () => log .pendingRolledBack
      | .error e => log (.pendingRollbackFailed e)

/-- Closes the connection, giving up the active transaction first. -/
def closeConnection : Action κ Unit := do
  let _ ← requireUsable
  abandonTransaction
  disconnect

/-- Closes the connection for good. A second time does nothing. -/
def dispose : Action κ Unit := do
  if !(← current).isDisposed then
    modifyDatabase fun d => { d with isDisposed := true }
    abandonTransaction
    log .disposed
    disconnect

/-- Runs statements without parameters. -/
def batch (sql : String) : Action κ Unit := do
  let _ ← requireOpen
  conclude (← callBatch sql)

/-! ## Transactions -/

def begin (level : IsolationLevel) (readOnly : Bool) : Action κ Transaction := do
  let d ← requireOpen
  if d.transaction.isSome then throw .transactionActive
  let t : Transaction := ⟨d.nextTransaction, level, readOnly⟩
  modifyDatabase fun d => { d with nextTransaction := d.nextTransaction + 1 }
  conclude (← callBatch t.beginSql)
  modifyDatabase fun d => { d with transaction := some t }
  log (.transactionStarted t)
  return t

/-- Ends the active transaction. It is over also if the statement fails. -/
def finish (how : TransactionEnd) : Action κ Unit := do
  let _ ← requireOpen
  let _ ← requireTransaction
  modifyDatabase fun d => { d with transaction := none }
  let result ← callBatch how.sql
  match result with
  | .ok () => log (.transactionEnded how)
  | .error e => log (.transactionEndFailed how e)
  conclude result

def savepoint (action : SavepointAction) (name : String) : Action κ Unit := do
  let _ ← requireOpen
  let _ ← requireTransaction
  let sql ← conclude (action.sql name)
  log (.savepoint sql)
  conclude (← callBatch sql)

/-! ## Settings -/

/-- Sets the timeout of the commands made from now on. -/
def setCommandTimeout (timeout : Duration) : Action κ Unit := do
  if timeout.isZero then throw .zeroTimeout
  modifyDatabase fun d => { d with settings := { d.settings with commandTimeout := timeout } }

end Database

end SqlAccess

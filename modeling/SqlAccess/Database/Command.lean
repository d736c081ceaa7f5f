import SqlAccess.Command.Binding
import SqlAccess.Command.Procedure
import SqlAccess.Database.Basic
import SqlAccess.Text.Truncate

/-!
# Making and running commands

Commands are made with the settings of the object and join the active transaction unless they are
given another one. A command runs only inside the transaction it belongs to. While it runs, its
result, its timeout and a signal to cancel are in a race; if the result does not win, the server
is asked to give the statement up.
-/

namespace SqlAccess

namespace Database

variable {κ α : Type} [Connection κ]

/-! ## Making commands -/

/-- A command without parameters. -/
def newCommand (d : Database κ) (text : String) (kind : CommandKind)
    (transaction : Option Transaction) : Except Error Command :=
  let c := Command.ofText text
  { c with
    kind, marker := d.settings.marker, transaction := transaction.or d.transaction }.withTimeout
    d.settings.commandTimeout

/-- A command with the parameters of a source. -/
def createCommand (text : String) (kind : CommandKind) (source : ParameterSource)
    (transaction : Option Transaction) : Action κ Command := do
  let d ← requireUsable
  if kind = .procedure then conclude (checkProcedureName text)
  let c ← conclude (d.newCommand text kind transaction)
  return c.bindSource d.settings.marker source

/-- A command that calls a procedure. -/
def createProcedureCommand (p : Procedure) (transaction : Option Transaction) :
    Action κ Command := do
  let d ← requireUsable
  conclude (checkProcedureName p.name)
  let c ← conclude (d.newCommand p.name .procedure transaction)
  return c.bindParameters d.settings.marker p.arguments

/-! ## The race -/

/-- What ends the wait for a command. -/
inductive Winner
  | completion
  | timeout
  | cancellation
  deriving DecidableEq, Repr

/-- The first of three events. A result without delay is there before anything else. -/
def firstOf (completion : Option Duration) (timeout : Duration) (cancellation : Option Duration) :
    Winner :=
  match completion with
  | none => .completion
  | some done =>
    let cancelledBefore (d : Duration) : Bool :=
      match cancellation with
      | some c => c.nanoseconds < d.nanoseconds
      | none => false
    if done.nanoseconds ≤ timeout.nanoseconds && !cancelledBefore done then .completion
    else if cancelledBefore timeout then .cancellation
    else .timeout

/-! ## Logging commands -/

/-- The text under which a command is logged. -/
def loggedSql (s : Settings) (c : Command) : String :=
  let full := if s.logParameters then c.displaySql else c.text
  match s.maxLoggedSql with
  | some limit =>
    if limit < full.utf8ByteSize then Text.truncated limit full ++ "..." else full
  | none => full

/-- How a finished command is logged. -/
def commandOutcome (s : Settings) (elapsed : Duration) (result : Except Error α) :
    CommandOutcome :=
  match result with
  | .error e => if e.isInterruption then .interrupted e else .failed e
  | .ok _ =>
    match s.slowThreshold with
    | some threshold =>
      if threshold.nanoseconds ≤ elapsed.nanoseconds then .slow else .executed
    | none => .executed

def logCommand (use : CommandUse) (c : Command) (elapsed : Duration) (result : Except Error α) :
    Action κ Unit := do
  let s := (← current).settings
  log (.command use (loggedSql s c) c.parameters.length (commandOutcome s elapsed result))

/-! ## Running commands -/

/-- Why a command may not run while `active` is the open transaction. -/
def transactionMismatch (c active : Option Transaction) : Error :=
  match c, active with
  | some _, none => .transactionOver
  | none, some _ => .outsideTransaction
  | _, _ => .otherTransaction

/-- The checks before a command runs. -/
def requireRunnable (c : Command) : Action κ Unit := do
  let d ← requireOpen
  if c.transaction ≠ d.transaction then throw (transactionMismatch c.transaction d.transaction)

/-- Asks the server to give up the running statement; a failure is only logged. -/
def requestCancel : Action κ Unit := do
  match ← call .cancel Connection.cancel with
  | .ok () => return ()
  | .error e => log (.cancelFailed e)

/-- Ends the wait for a command as the winner says. -/
def settle (use : CommandUse) (c : Command) (p : Pending α) : Winner → Action κ α
  | .completion => do
    logCommand use c (p.delay.getD ⟨0⟩) p.result
    conclude p.result
  | .timeout => do
    requestCancel
    let result : Except Error α := .error (.timeout c.timeout)
    logCommand use c c.timeout result
    conclude result
  | .cancellation => do
    requestCancel
    let result : Except Error α := .error .cancelled
    logCommand use c c.timeout result
    conclude result

/-- Runs a command by a call on the connection; `winner` says what ends the wait for its result. -/
def runCommand (use : CommandUse) (c : Command) (made : ConnectionCall) (f : κ → Pending α × κ)
    (winner : Pending α → Winner) : Action κ α := do
  requireRunnable c
  let p ← call made f
  settle use c p (winner p)

/-- Runs a command for the number of rows it affects; `cancel` is when the signal comes. -/
def executeCommand (c : Command) (cancel : Option Duration) : Action κ Nat :=
  runCommand .execute c (.execute c) (Connection.execute c) fun p =>
    firstOf p.delay c.timeout cancel

/-- Runs a command for its rows; `cancel` is when the signal comes. -/
def queryCommand (c : Command) (cancel : Option Duration) : Action κ Table :=
  runCommand .query c (.query c) (Connection.query c) fun p =>
    firstOf p.delay c.timeout cancel

end Database

end SqlAccess

import SqlAccess.Transaction

/-!
# Log events

What a database object reports while it works. An event becomes a record of a level, a target, a
message and named texts.
-/

namespace SqlAccess

inductive LogLevel
  | debug
  | warn
  deriving DecidableEq, Repr

/-- How a transaction ends. -/
inductive TransactionEnd
  | commit
  | rollback
  deriving DecidableEq, Repr

namespace TransactionEnd

def sql : TransactionEnd → String
  | commit => Transaction.commitSql
  | rollback => Transaction.rollbackSql

/-- What has been done to the transaction. -/
def participle : TransactionEnd → String
  | commit => "committed"
  | rollback => "rolled back"

end TransactionEnd

/-- What a command was run for. -/
inductive CommandUse
  | execute
  | query
  deriving DecidableEq, Repr

def CommandUse.name : CommandUse → String
  | execute => "execute"
  | query => "query"

inductive CommandOutcome
  | executed
  | slow
  | failed (e : Error)
  | interrupted (e : Error)
  deriving DecidableEq, Repr

inductive LogEvent
  | disposed
  | pendingRolledBack
  | pendingRollbackFailed (e : Error)
  | transactionStarted (t : Transaction)
  | transactionEnded (how : TransactionEnd)
  | transactionEndFailed (how : TransactionEnd) (e : Error)
  | savepoint (sql : String)
  | cancelFailed (e : Error)
  | command (use : CommandUse) (sql : String) (parameterCount : Nat) (outcome : CommandOutcome)
  deriving DecidableEq, Repr

/-- An event as it is written. -/
structure LogRecord where
  level : LogLevel
  target : String
  message : String
  fields : List (String × String)
  deriving DecidableEq, Repr

namespace LogEvent

def commandTarget : String := "pgmat.sql"

def transactionTarget : String := "pgmat.tx"

def commandRecord (use : CommandUse) (sql : String) (parameterCount : Nat) :
    CommandOutcome → LogRecord :=
  let fields := [("op", use.name), ("sql", sql), ("param_count", Nat.repr parameterCount)]
  fun
  | .executed => ⟨.debug, commandTarget, "command executed", fields⟩
  | .slow => ⟨.warn, commandTarget, "slow command", fields⟩
  | .failed e => ⟨.debug, commandTarget, "command failed", fields ++ [("error", e.message)]⟩
  | .interrupted e =>
    ⟨.warn, commandTarget, "command interrupted", fields ++ [("error", e.message)]⟩

def record : LogEvent → LogRecord
  | disposed => ⟨.debug, transactionTarget, "materializer disposed", []⟩
  | pendingRolledBack => ⟨.debug, transactionTarget, "pending transaction rolled back", []⟩
  | pendingRollbackFailed e =>
    ⟨.warn, transactionTarget, "rollback of pending transaction failed", [("error", e.message)]⟩
  | transactionStarted t =>
    ⟨.debug, transactionTarget, "transaction started",
      [("isolation", t.level.sql), ("read_only", if t.readOnly then "true" else "false")]⟩
  | transactionEnded how =>
    ⟨.debug, transactionTarget, "transaction " ++ how.participle, []⟩
  | transactionEndFailed how e =>
    ⟨.warn, transactionTarget, "transaction " ++ how.participle ++ " failed",
      [("error", e.message)]⟩
  | savepoint sql => ⟨.debug, transactionTarget, "savepoint", [("sql", sql)]⟩
  | cancelFailed e => ⟨.warn, commandTarget, "cancel request failed", [("error", e.message)]⟩
  | command use sql parameterCount outcome => commandRecord use sql parameterCount outcome

end LogEvent

end SqlAccess

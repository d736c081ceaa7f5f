import SqlAccess.Error

/-!
# Transactions

A transaction is the token of the transaction that is open on a connection, and commands carry it
so that none of them runs in another one. Two transactions differ in their numbers even if they
are alike in everything else. The statements that open and end transactions and that handle
savepoints stand here too; the name of a savepoint becomes part of its statement, so only plain
identifiers are accepted.
-/

namespace SqlAccess

inductive IsolationLevel
  | readUncommitted
  | readCommitted
  | repeatableRead
  | serializable
  deriving DecidableEq, Repr

def IsolationLevel.sql : IsolationLevel → String
  | readUncommitted => "READ UNCOMMITTED"
  | readCommitted => "READ COMMITTED"
  | repeatableRead => "REPEATABLE READ"
  | serializable => "SERIALIZABLE"

structure Transaction where
  id : Nat
  level : IsolationLevel
  readOnly : Bool
  deriving DecidableEq, Repr

namespace Transaction

def beginSql (t : Transaction) : String :=
  "BEGIN ISOLATION LEVEL " ++ t.level.sql ++ (if t.readOnly then " READ ONLY" else "")

def commitSql : String := "COMMIT"

def rollbackSql : String := "ROLLBACK"

end Transaction

/-! ## Savepoints -/

/-- Whether a name is an ASCII letter or an underscore, followed by more of these and digits. -/
def isSavepointName (name : String) : Bool :=
  match name.toList with
  | [] => false
  | c :: rest => (c.isAlpha || c == '_') && rest.all fun d => d.isAlphanum || d == '_'

inductive SavepointAction
  | save
  | rollbackTo
  | release
  deriving DecidableEq, Repr

def SavepointAction.keyword : SavepointAction → String
  | save => "SAVEPOINT "
  | rollbackTo => "ROLLBACK TO SAVEPOINT "
  | release => "RELEASE SAVEPOINT "

/-- The statement for a savepoint, or why its name is refused. -/
def SavepointAction.sql (a : SavepointAction) (name : String) : Except Error String :=
  if isSavepointName name then .ok (a.keyword ++ name)
  else .error (.invalidArgument ("invalid savepoint name '" ++ name ++ "'"))

end SqlAccess

import SqlAccess.Duration

/-!
# Errors

Everything that can go wrong, by kind, with the text that says what. A failure reported by the
server is told apart by its five-character code.
-/

namespace SqlAccess

inductive Error
  /-- the database object has been given up -/
  | disposed
  | invalidArgument (detail : String)
  | notSupported (detail : String)
  /-- the call does not fit the state of the connection, the transaction or the reader -/
  | invalidOperation (detail : String)
  | connection (detail : String)
  /-- a statement failed; the code is the server's, if it was the server that failed it -/
  | query (detail : String) (code : Option String)
  | notFound (detail : String)
  | tooManyRows (expected got : Nat)
  | uniqueViolation (detail : String)
  | foreignKeyViolation (detail : String)
  | checkViolation (detail : String)
  /-- a cell could not be read -/
  | decode (column detail : String)
  | timeout (limit : Duration)
  | cancelled
  deriving DecidableEq, Repr

namespace Error

def message : Error → String
  | disposed => "Object has been disposed"
  | invalidArgument detail => "Invalid argument: " ++ detail
  | notSupported detail => "Not supported: " ++ detail
  | invalidOperation detail => "Invalid operation: " ++ detail
  | connection detail => "Connection error: " ++ detail
  | query detail _ => "Query error: " ++ detail
  | notFound detail => "Not found: " ++ detail
  | tooManyRows expected got =>
    "Too many rows: expected " ++ Nat.repr expected ++ ", got " ++ Nat.repr got
  | uniqueViolation detail => "Unique constraint violation: " ++ detail
  | foreignKeyViolation detail => "Foreign key violation: " ++ detail
  | checkViolation detail => "Check constraint violation: " ++ detail
  | decode column detail => "Decode error on column '" ++ column ++ "': " ++ detail
  | timeout limit => "Command timeout after " ++ limit.text
  | cancelled => "Operation was cancelled"

def isDisposed : Error → Bool
  | disposed => true
  | _ => false

def isInvalidOperation : Error → Bool
  | invalidOperation _ => true
  | _ => false

def isUniqueViolation : Error → Bool
  | uniqueViolation _ => true
  | _ => false

def isNotFound : Error → Bool
  | notFound _ => true
  | _ => false

def isTimeout : Error → Bool
  | timeout _ => true
  | _ => false

def isCancelled : Error → Bool
  | cancelled => true
  | _ => false

/-- Whether a command was given up before it finished. -/
def isInterruption : Error → Bool
  | timeout _ => true
  | cancelled => true
  | _ => false

end Error

/-- A failure as the server reports it. -/
structure ServerFailure where
  code : String
  message : String
  constraint : Option String
  deriving DecidableEq, Repr

namespace ServerFailure

/-- The violated constraint and what the server says about it. -/
def violation (f : ServerFailure) : String :=
  f.constraint.getD "unknown" ++ ": " ++ f.message

/-- Violated constraints have kinds of their own; every other failure is a failed query. -/
def toError (f : ServerFailure) : Error :=
  if f.code = "23505" then .uniqueViolation f.violation
  else if f.code = "23503" then .foreignKeyViolation f.violation
  else if f.code = "23514" then .checkViolation f.violation
  else .query "db error" (some f.code)

end ServerFailure

end SqlAccess

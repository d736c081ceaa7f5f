import SqlAccess.Command.Basic
import SqlAccess.Table.Basic

/-!
# Connections

What a database object needs of a connection: its state, a handful of calls that may fail, and
commands whose results may take time. Each call gives the connection after it.
-/

namespace SqlAccess

inductive ConnectionState
  | closed
  | open
  /-- the session ended without being closed -/
  | broken
  deriving DecidableEq, Repr

namespace ConnectionState

def isOpen : ConnectionState → Bool
  | .open => true
  | _ => false

/-- The state as error texts spell it. -/
def name : ConnectionState → String
  | .closed => "Closed"
  | .open => "Open"
  | .broken => "Broken"

end ConnectionState

/-- A result that arrives after a delay, or at once if there is none. -/
structure Pending (α : Type) where
  delay : Option Duration
  result : Except Error α

class Connection (κ : Type) where
  /-- the string that says where the connection leads -/
  description : κ → String
  state : κ → ConnectionState
  connect : κ → Except Error Unit × κ
  disconnect : κ → Except Error Unit × κ
  /-- runs statements without parameters -/
  batch : String → κ → Except Error Unit × κ
  /-- runs a command for the number of rows it affects -/
  execute : Command → κ → Pending Nat × κ
  /-- runs a command for its rows -/
  query : Command → κ → Pending Table × κ
  /-- asks the server to give up the running statement -/
  cancel : κ → Except Error Unit × κ

/-- A call made on a connection. -/
inductive ConnectionCall
  | connect
  | disconnect
  | batch (sql : String)
  | execute (command : Command)
  | query (command : Command)
  | cancel
  deriving Repr

end SqlAccess

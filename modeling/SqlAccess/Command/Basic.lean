import SqlAccess.Parameter.Basic
import SqlAccess.Settings.Basic
import SqlAccess.SqlText.Rewrite
import SqlAccess.Transaction
import SqlAccess.Value.Display

/-!
# Commands

A command is a text with parameters, ready to be executed: SQL with placeholders, or the name of a
procedure whose arguments the parameters are.
-/

namespace SqlAccess

inductive CommandKind
  | text
  | procedure
  deriving DecidableEq, Repr

structure Command where
  text : String
  kind : CommandKind
  timeout : Duration
  transaction : Option Transaction
  parameters : List Parameter
  marker : Char
  deriving Repr

namespace Command

/-- A text command with the default settings and no parameters. -/
def ofText (text : String) : Command :=
  ⟨text, .text, defaultCommandTimeout, none, [], defaultMarker⟩

def withTimeout (c : Command) (timeout : Duration) : Except Error Command :=
  if timeout.isZero then .error .zeroTimeout else .ok { c with timeout }

/-! ## Parameters -/

def push (c : Command) (p : Parameter) : Command :=
  { c with parameters := c.parameters ++ [p] }

def clearParameters (c : Command) : Command :=
  { c with parameters := [] }

/-- The names of the parameters, marker included where there is one. -/
def parameterNames (c : Command) : List String :=
  c.parameters.map (·.name)

/-- The first parameter whose full name is `name`. -/
def parameter? (c : Command) (name : String) : Option Parameter :=
  c.parameters.find? (·.name == name)

/-- Applies `f` to the first parameter whose full name is `name`. -/
def editParameter (c : Command) (name : String) (f : Parameter → Parameter) : Command :=
  match c.parameters.findIdx? (·.name == name) with
  | some i => { c with parameters := c.parameters.modify i f }
  | none => c

/-- An input parameter without a name, which is not on any command. -/
def newParameter : Parameter := .input "" .null

/-! ## The text for logs -/

/-- The parameter that a placeholder called `name` shows. -/
def displayed? (c : Command) (name : String) : Option Parameter :=
  c.parameters.find? fun p => p.logicalName c.marker == name

/-- The command with literals in the place of parameters. It is written for readers and never
sent. -/
def displaySql (c : Command) : String :=
  match c.kind with
  | .text => substitute c.text c.marker fun name => (c.displayed? name).map (·.value.literal)
  | .procedure =>
    let arguments := (c.parameters.filter (·.direction.isInput)).map fun p =>
      p.logicalName c.marker ++ " => " ++ p.value.literal
    c.text ++ "(" ++ ", ".intercalate arguments ++ ")"

end Command

end SqlAccess

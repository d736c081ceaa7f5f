import SqlAccess.Database.Command

/-!
# The race for a command

While a command runs, its result, its timeout and the signal to cancel are looked at again and again
until one of them has come, and each time in whatever order. The statement is sent when its result
is looked for the first time, so one of the others may come before it is sent at all.
`executeCommand` and `queryCommand` are the races in which the statement is sent at once and the
first event is seen as soon as it comes.
-/

namespace SqlAccess

namespace Database

variable {κ α : Type}

/-- One look at the three events: how long the command has been running, the order in which they are
looked at, and which of them have come. -/
structure Poll where
  elapsed : Duration
  order : List Winner
  isOrder : order.Perm [.completion, .timeout, .cancellation]
  ready : Winner → Bool

/-- What a wait has come to. -/
inductive Wait (α : Type)
  /-- nothing has come; the result that will, if the statement has been sent -/
  | waiting (sent : Option (Except Error α))
  | over (result : Except Error α)

/-- Sends the statement unless that has been done. Gives the result that it will have. -/
def send (made : ConnectionCall) (f : κ → Pending α × κ) :
    Option (Except Error α) → Action κ (Except Error α)
  | some result => return result
  | none => return (← call made f).result

variable [Connection κ]

/-- Looks at events one after another until one has come. -/
def look (made : ConnectionCall) (f : κ → Pending α × κ) (timeout : Duration)
    (ready : Winner → Bool) : List Winner → Option (Except Error α) → Action κ (Wait α)
  | [], sent => return .waiting sent
  | .completion :: order, sent => do
    let result ← send made f sent
    if ready .completion then return .over result
    else look made f timeout ready order (some result)
  | .timeout :: order, sent => do
    if ready .timeout then
      requestCancel
      return .over (.error (.timeout timeout))
    else look made f timeout ready order sent
  | .cancellation :: order, sent => do
    if ready .cancellation then
      requestCancel
      return .over (.error .cancelled)
    else look made f timeout ready order sent

/-- Looks at the events once in each poll until one has come. There is no result if none has. -/
def awaitCommand (use : CommandUse) (c : Command) (made : ConnectionCall)
    (f : κ → Pending α × κ) : List Poll → Option (Except Error α) → Action κ (Option α)
  | [], _ => return none
  | p :: polls, sent => do
    match ← look made f c.timeout p.ready p.order sent with
    | .waiting sent => awaitCommand use c made f polls sent
    | .over result =>
      logCommand use c p.elapsed result
      return some (← conclude result)

/-- Runs a command by a call on the connection; `polls` say how the wait for its result goes. -/
def raceCommand (use : CommandUse) (c : Command) (made : ConnectionCall) (f : κ → Pending α × κ)
    (polls : List Poll) : Action κ (Option α) := do
  requireRunnable c
  awaitCommand use c made f polls none

/-- Runs a command for the number of rows it affects. -/
def raceExecute (c : Command) (polls : List Poll) : Action κ (Option Nat) :=
  raceCommand .execute c (.execute c) (Connection.execute c) polls

/-- Runs a command for its rows. -/
def raceQuery (c : Command) (polls : List Poll) : Action κ (Option Table) :=
  raceCommand .query c (.query c) (Connection.query c) polls

end Database

end SqlAccess

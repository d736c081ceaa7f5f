import SqlAccess.Proofs.Database.Run

/-!
# Operations

The operations of a database object in one type. Some are made of others; of their results only
the transaction counts that an operation begins.
-/

namespace SqlAccess

/-- An operation with its arguments. -/
inductive Operation (κ : Type)
  | connectionString
  | connectionState
  | setConnection (connection : κ)
  | openConnection
  | closeConnection
  | dispose
  | batch (sql : String)
  | begin (level : IsolationLevel) (readOnly : Bool)
  | finish (how : TransactionEnd)
  | savepoint (action : SavepointAction) (name : String)
  | setCommandTimeout (timeout : Duration)
  | createCommand (text : String) (kind : CommandKind) (source : ParameterSource)
      (transaction : Option Transaction)
  | createProcedureCommand (p : Procedure) (transaction : Option Transaction)
  | executeCommand (c : Command) (cancel : Option Duration)
  | queryCommand (c : Command) (cancel : Option Duration)
  | execute (sql : String) (source : ParameterSource) (cancel : Option Duration)
  | query (sql : String) (source : ParameterSource) (cancel : Option Duration)
  | scalar (sql : String) (source : ParameterSource) (cancel : Option Duration) (target : Target)
  | queryAs (sql : String) (source : ParameterSource) (cancel : Option Duration) (m : RowMapping)
  | openReader (sql : String) (source : ParameterSource)
  | queryOne (sql : String) (source : ParameterSource) (m : RowMapping)
  | queryOnly (sql : String) (source : ParameterSource) (m : RowMapping)
  | queryOptional (sql : String) (source : ParameterSource) (m : RowMapping)
  | callProcedure (p : Procedure)
  | queryProcedure (p : Procedure) (m : RowMapping)

variable {κ α β : Type}

/-- An action of which only success or failure counts. -/
def ignoring (a : Action κ α) : Action κ (Option Transaction) := do
  let _ ← a
  return none

/-- The transaction that an operation with this result has begun. -/
def begunBy : Except Error (Option Transaction) → Option Transaction
  | .ok t => t
  | .error _ => none

theorem runFrom_ignoring (a : Action κ α) (j : Journal κ) :
    runFrom (ignoring a) j = ((runFrom a j).1.map fun _ => none, (runFrom a j).2) :=
  runFrom_map (fun _ => none) a j

theorem perform_ignoring {a : Action κ α} {d : Database κ} {r : Except Error α} {j : Journal κ}
    (h : runFrom a ⟨d, [], []⟩ = (r, j)) :
    Database.perform (ignoring a) d = (r.map fun _ => none, j) := by
  show runFrom (ignoring a) ⟨d, [], []⟩ = _
  rw [runFrom_ignoring, h]

theorem journal_ignoring (a : Action κ α) (d : Database κ) :
    (Database.perform (ignoring a) d).2 = (runFrom a ⟨d, [], []⟩).2 :=
  congrArg Prod.snd (runFrom_ignoring a _)

theorem begunBy_ignoring (a : Action κ α) (j : Journal κ) :
    begunBy (runFrom (ignoring a) j).1 = none := by
  rw [runFrom_ignoring]
  cases (runFrom a j).1 <;> rfl

namespace Operation

/-- Does an operation. The result is the transaction that it begins, if it begins one. -/
def run [Connection κ] : Operation κ → Action κ (Option Transaction)
  | connectionString => ignoring Database.connectionString
  | connectionState => ignoring Database.connectionState
  | setConnection connection => ignoring (Database.setConnection connection)
  | openConnection => ignoring Database.openConnection
  | closeConnection => ignoring Database.closeConnection
  | dispose => ignoring Database.dispose
  | batch sql => ignoring (Database.batch sql)
  | begin level readOnly => some <$> Database.begin level readOnly
  | finish how => ignoring (Database.finish how)
  | savepoint action name => ignoring (Database.savepoint action name)
  | setCommandTimeout timeout => ignoring (Database.setCommandTimeout timeout)
  | createCommand text kind source transaction =>
    ignoring (Database.createCommand text kind source transaction)
  | createProcedureCommand p transaction =>
    ignoring (Database.createProcedureCommand p transaction)
  | executeCommand c cancel => ignoring (Database.executeCommand c cancel)
  | queryCommand c cancel => ignoring (Database.queryCommand c cancel)
  | execute sql source cancel => ignoring (Database.execute sql source cancel)
  | query sql source cancel => ignoring (Database.query sql source cancel)
  | scalar sql source cancel target => ignoring (Database.scalar sql source cancel target)
  | queryAs sql source cancel m => ignoring (Database.queryAs sql source cancel m)
  | openReader sql source => ignoring (Database.openReader sql source)
  | queryOne sql source m => ignoring (Database.queryOne sql source m)
  | queryOnly sql source m => ignoring (Database.queryOnly sql source m)
  | queryOptional sql source m => ignoring (Database.queryOptional sql source m)
  | callProcedure p => ignoring (Database.callProcedure p)
  | queryProcedure p m => ignoring (Database.queryProcedure p m)

/-- Whether the operation sends statements of its caller. -/
def sendsText : Operation κ → Bool
  | batch _ | executeCommand .. | queryCommand .. | execute .. | query .. | scalar .. | queryAs ..
  | openReader .. | queryOne .. | queryOnly .. | queryOptional .. | callProcedure ..
  | queryProcedure .. => true
  | _ => false

/-- The connection that the operation puts in the place of the present one. -/
def offered? : Operation κ → Option κ
  | setConnection connection => some connection
  | _ => none

/-- The same operation on connections of another kind. -/
def map {κ' : Type} (f : κ → κ') : Operation κ → Operation κ'
  | connectionString => .connectionString
  | connectionState => .connectionState
  | setConnection connection => .setConnection (f connection)
  | openConnection => .openConnection
  | closeConnection => .closeConnection
  | dispose => .dispose
  | batch sql => .batch sql
  | begin level readOnly => .begin level readOnly
  | finish how => .finish how
  | savepoint action name => .savepoint action name
  | setCommandTimeout timeout => .setCommandTimeout timeout
  | createCommand text kind source transaction => .createCommand text kind source transaction
  | createProcedureCommand p transaction => .createProcedureCommand p transaction
  | executeCommand c cancel => .executeCommand c cancel
  | queryCommand c cancel => .queryCommand c cancel
  | execute sql source cancel => .execute sql source cancel
  | query sql source cancel => .query sql source cancel
  | scalar sql source cancel target => .scalar sql source cancel target
  | queryAs sql source cancel m => .queryAs sql source cancel m
  | openReader sql source => .openReader sql source
  | queryOne sql source m => .queryOne sql source m
  | queryOnly sql source m => .queryOnly sql source m
  | queryOptional sql source m => .queryOptional sql source m
  | callProcedure p => .callProcedure p
  | queryProcedure p m => .queryProcedure p m

theorem sendsText_map {κ' : Type} (f : κ → κ') (op : Operation κ) :
    (op.map f).sendsText = op.sendsText := by
  cases op <;> rfl

theorem offered?_map {κ' : Type} (f : κ → κ') (op : Operation κ) :
    (op.map f).offered? = op.offered?.map f := by
  cases op <;> rfl

end Operation

end SqlAccess

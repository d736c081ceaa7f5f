import SqlAccess.Database.Query

/-!
# Running actions

`runFrom` runs an action from a journal, and its equations let an action be followed step by step
(`runFrom_bind`). A silent action changes neither the object nor the list of calls; checks and log
entries are silent.
-/

namespace SqlAccess

variable {κ α β : Type}

/-- What an action gives, and the journal after it, when it starts from `j`. -/
def runFrom (a : Action κ α) (j : Journal κ) : Except Error α × Journal κ :=
  a.run.run j

theorem runFrom_pure (x : α) (j : Journal κ) : runFrom (pure x) j = (.ok x, j) := rfl

theorem runFrom_throw (e : Error) (j : Journal κ) :
    runFrom (throw e : Action κ α) j = (.error e, j) := rfl

theorem runFrom_bind (a : Action κ α) (f : α → Action κ β) (j : Journal κ) :
    runFrom (a >>= f) j =
      match runFrom a j with
      | (.ok x, j') => runFrom (f x) j'
      | (.error e, j') => (.error e, j') := by
  show (a >>= f).run.run j = _
  rw [ExceptT.run_bind, StateT.run_bind]
  unfold runFrom
  cases h : (a.run.run j : Except Error α × Journal κ) with
  | mk r j' =>
    cases r with
    | ok x => rfl
    | error e => rfl

theorem runFrom_map (f : α → β) (a : Action κ α) (j : Journal κ) :
    runFrom (f <$> a) j = ((runFrom a j).1.map f, (runFrom a j).2) := by
  show runFrom (a >>= fun x => pure (f x)) j = _
  rw [runFrom_bind]
  cases runFrom a j with
  | mk r j' => cases r <;> rfl

namespace Database

theorem runFrom_current (j : Journal κ) : runFrom current j = (.ok j.database, j) := rfl

theorem runFrom_modifyDatabase (f : Database κ → Database κ) (j : Journal κ) :
    runFrom (modifyDatabase f) j = (.ok (), { j with database := f j.database }) := rfl

theorem runFrom_log (e : LogEvent) (j : Journal κ) :
    runFrom (log e) j = (.ok (), { j with events := j.events ++ [e] }) := rfl

theorem runFrom_call (c : ConnectionCall) (f : κ → α × κ) (j : Journal κ) :
    runFrom (call c f) j =
      (.ok (f j.database.connection).1,
        { j with
          database := { j.database with connection := (f j.database.connection).2 }
          calls := j.calls ++ [c] }) := rfl

theorem runFrom_conclude (r : Except Error α) (j : Journal κ) :
    runFrom (conclude r) j = (r, j) := by
  cases r <;> rfl

end Database

/-! ## Silent actions -/

/-- Whatever comes of it, the action leaves the object and the list of calls as they are. -/
def Silent (a : Action κ α) : Prop :=
  ∀ j, (runFrom a j).2.database = j.database ∧ (runFrom a j).2.calls = j.calls

namespace Silent

theorem throw (e : Error) : Silent (MonadExcept.throw e : Action κ α) := fun _ => ⟨rfl, rfl⟩

theorem pure (x : α) : Silent (Pure.pure x : Action κ α) := fun _ => ⟨rfl, rfl⟩

theorem bind {a : Action κ α} {f : α → Action κ β} (ha : Silent a) (hf : ∀ x, Silent (f x)) :
    Silent (a >>= f) := by
  intro j
  obtain ⟨hd, hc⟩ := ha j
  rw [runFrom_bind]
  split
  · next x j' h =>
    rw [h] at hd hc
    obtain ⟨hd', hc'⟩ := hf x j'
    exact ⟨hd'.trans hd, hc'.trans hc⟩
  · next e j' h =>
    rw [h] at hd hc
    exact ⟨hd, hc⟩

end Silent

namespace Database

theorem silent_current : Silent (current (κ := κ)) := fun _ => ⟨rfl, rfl⟩

theorem silent_log (e : LogEvent) : Silent (log (κ := κ) e) := fun _ => ⟨rfl, rfl⟩

theorem silent_conclude (r : Except Error α) : Silent (conclude (κ := κ) r) := by
  intro j
  rw [runFrom_conclude]
  exact ⟨rfl, rfl⟩

/-! ## Checks -/

/-- Why an object is not usable. -/
def usableError? (d : Database κ) : Option Error :=
  if d.isDisposed then some .disposed else none

/-- Why nothing can be sent. -/
def openError? [Connection κ] (d : Database κ) : Option Error :=
  d.usableError?.or
    (if (Connection.state d.connection).isOpen then none
    else some (.connectionNotOpen (Connection.state d.connection)))

/-- Whether the object is in use and its connection open. -/
def isOpen [Connection κ] (d : Database κ) : Bool :=
  !d.isDisposed && (Connection.state d.connection).isOpen

theorem openError?_eq_none_iff [Connection κ] {d : Database κ} :
    d.openError? = none ↔ d.isOpen = true := by
  cases hd : d.isDisposed <;> cases ho : (Connection.state d.connection).isOpen <;>
    simp [openError?, usableError?, isOpen, hd, ho]

theorem usableError?_eq_none_iff {d : Database κ} :
    d.usableError? = none ↔ d.isDisposed = false := by
  cases hd : d.isDisposed <;> simp [usableError?, hd]

theorem runFrom_requireUsable (j : Journal κ) :
    runFrom requireUsable j =
      match j.database.usableError? with
      | some e => (.error e, j)
      | none => (.ok j.database, j) := by
  cases h : j.database.isDisposed <;>
    simp [requireUsable, usableError?, runFrom_bind, runFrom_current, h, runFrom_throw,
      runFrom_pure]

theorem runFrom_requireOpen [Connection κ] (j : Journal κ) :
    runFrom requireOpen j =
      match j.database.openError? with
      | some e => (.error e, j)
      | none => (.ok j.database, j) := by
  rw [requireOpen, runFrom_bind, runFrom_requireUsable, openError?]
  cases j.database.usableError? with
  | some e => rfl
  | none =>
    cases h : (Connection.state j.database.connection).isOpen <;>
      simp [h, runFrom_throw, runFrom_pure]

theorem runFrom_requireTransaction (j : Journal κ) :
    runFrom requireTransaction j =
      match j.database.transaction with
      | some t => (.ok t, j)
      | none => (.error .noTransaction, j) := by
  rw [requireTransaction, runFrom_bind, runFrom_current]
  cases h : j.database.transaction <;> simp [h, runFrom_throw, runFrom_pure]

theorem silent_requireUsable : Silent (requireUsable (κ := κ)) := by
  intro j
  rw [runFrom_requireUsable]
  cases j.database.usableError? <;> exact ⟨rfl, rfl⟩

theorem silent_requireOpen [Connection κ] : Silent (requireOpen (κ := κ)) := by
  intro j
  rw [runFrom_requireOpen]
  cases j.database.openError? <;> exact ⟨rfl, rfl⟩

theorem silent_requireTransaction : Silent (requireTransaction (κ := κ)) := by
  intro j
  rw [runFrom_requireTransaction]
  cases j.database.transaction <;> exact ⟨rfl, rfl⟩

/-! ## Making and logging commands -/

theorem silent_createCommand (text : String) (kind : CommandKind) (source : ParameterSource)
    (transaction : Option Transaction) :
    Silent (createCommand (κ := κ) text kind source transaction) := by
  refine silent_requireUsable.bind fun d => ?_
  split
  · refine (silent_conclude _).bind fun _ => (silent_conclude _).bind fun c => Silent.pure _
  · exact (silent_conclude _).bind fun c => Silent.pure _

theorem silent_createProcedureCommand (p : Procedure) (transaction : Option Transaction) :
    Silent (createProcedureCommand (κ := κ) p transaction) :=
  silent_requireUsable.bind fun _ => (silent_conclude _).bind fun _ =>
    (silent_conclude _).bind fun _ => Silent.pure _

theorem runFrom_logCommand (use : CommandUse) (c : Command) (elapsed : Duration)
    (result : Except Error α) (j : Journal κ) :
    ∃ events, runFrom (logCommand use c elapsed result) j =
      (.ok (), ⟨j.database, j.calls, events⟩) :=
  ⟨_, rfl⟩

theorem silent_logCommand (use : CommandUse) (c : Command) (elapsed : Duration)
    (result : Except Error α) : Silent (logCommand (κ := κ) use c elapsed result) :=
  silent_current.bind fun _ => silent_log _

end Database

end SqlAccess

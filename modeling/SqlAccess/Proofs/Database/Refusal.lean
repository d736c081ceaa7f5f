import SqlAccess.Proofs.Database.Effect

/-!
# Refusals

An operation checks the object and its arguments before it does anything. `Operation.refusal?` is
the first objection that these checks find. An operation with an objection fails with it and does
nothing else (`Operation.perform_of_refusal`); any other succeeds or makes a call
(`Operation.isOk_or_calls`).
-/

namespace SqlAccess

variable {κ α β : Type}

/-! ## Objections -/

/-- The error if the condition holds. -/
def Error.when (e : Error) (b : Bool) : Option Error :=
  if b then some e else none

theorem Error.when_eq_some_iff {e e' : Error} {b : Bool} :
    e.when b = some e' ↔ b = true ∧ e = e' := by
  cases b <;> simp [Error.when]

theorem Error.when_eq_none_iff {e : Error} {b : Bool} : e.when b = none ↔ b = false := by
  cases b <;> simp [Error.when]

theorem Error.when_isSome_eq_none_iff {e : Error} {o : Option α} :
    e.when o.isSome = none ↔ o = none := by
  cases o <;> simp [Error.when]

theorem Error.when_isNone_eq_none_iff {e : Error} {o : Option α} :
    e.when o.isNone = none ↔ ∃ x, o = some x := by
  cases o <;> simp [Error.when]

def Error.invalidSavepointName (name : String) : Error :=
  .invalidArgument ("invalid savepoint name '" ++ name ++ "'")

namespace Database

/-- Why no command is made: the text is the name of a procedure if the command calls one. -/
def makingError? (d : Database κ) (kind : CommandKind) (text : String) : Option Error :=
  d.usableError?.or
    (((Error.invalidProcedureName text).when (kind = .procedure && !isProcedureName text)).or
      (Error.zeroTimeout.when d.settings.commandTimeout.isZero))

variable [Connection κ]

/-- Why a command that belongs to `t` does not run. -/
def runningError? (d : Database κ) (t : Option Transaction) : Option Error :=
  d.openError?.or ((transactionMismatch t d.transaction).when (t ≠ d.transaction))

end Database

/-- The first objection that an operation finds. -/
def Operation.refusal? [Connection κ] (d : Database κ) : Operation κ → Option Error
  | connectionString | connectionState | openConnection | closeConnection => d.usableError?
  | setConnection _ =>
    d.usableError?.or (Error.replaceInTransaction.when d.transaction.isSome)
  | dispose => none
  | batch _ => d.openError?
  | begin _ _ => d.openError?.or (Error.transactionActive.when d.transaction.isSome)
  | finish _ => d.openError?.or (Error.noTransaction.when d.transaction.isNone)
  | savepoint _ name =>
    d.openError?.or ((Error.noTransaction.when d.transaction.isNone).or
      ((Error.invalidSavepointName name).when !isSavepointName name))
  | setCommandTimeout timeout => Error.zeroTimeout.when timeout.isZero
  | createCommand text kind _ _ => d.makingError? kind text
  | createProcedureCommand p _ => d.makingError? .procedure p.name
  | executeCommand c _ | queryCommand c _ => d.runningError? c.transaction
  | execute sql _ _ | query sql _ _ | scalar sql _ _ _ | queryAs sql _ _ _ | openReader sql _
  | queryOne sql _ _ | queryOnly sql _ _ | queryOptional sql _ _ =>
    (d.makingError? .text sql).or d.openError?
  | callProcedure p | queryProcedure p _ => (d.makingError? .procedure p.name).or d.openError?

/-! ## Actions that do nothing, and actions that make a call -/

/-- From `d` the action fails with `e` and does nothing. -/
def Refuses (a : Action κ α) (d : Database κ) (e : Error) : Prop :=
  ∀ calls events, runFrom a ⟨d, calls, events⟩ = (.error e, ⟨d, calls, events⟩)

/-- From `d` the action gives `x` and does nothing. -/
def Gives (a : Action κ α) (d : Database κ) (x : α) : Prop :=
  ∀ calls events, runFrom a ⟨d, calls, events⟩ = (.ok x, ⟨d, calls, events⟩)

/-- From `d` the action does not fail. -/
def Succeeds (a : Action κ α) (d : Database κ) : Prop :=
  ∀ calls events, ∃ x j, runFrom a ⟨d, calls, events⟩ = (.ok x, j)

/-- From `d` the action makes a call, whatever comes of it. -/
def Calls (a : Action κ α) (d : Database κ) : Prop :=
  ∀ calls events, ∃ c rest, (runFrom a ⟨d, calls, events⟩).2.calls = calls ++ c :: rest

section

variable {a : Action κ α} {f : α → Action κ β} {d : Database κ} {e : Error} {x : α} {y : β}

theorem refuses_throw : Refuses (throw e : Action κ α) d e := fun _ _ => rfl

theorem gives_pure : Gives (pure x) d x := fun _ _ => rfl

theorem Refuses.bind (h : Refuses a d e) : Refuses (a >>= f) d e := by
  intro calls events
  rw [runFrom_bind, h]

theorem Gives.bind_refuses (h : Gives a d x) (hf : Refuses (f x) d e) : Refuses (a >>= f) d e := by
  intro calls events
  rw [runFrom_bind, h]
  exact hf calls events

theorem Gives.bind (h : Gives a d x) (hf : Gives (f x) d y) : Gives (a >>= f) d y := by
  intro calls events
  rw [runFrom_bind, h]
  exact hf calls events

theorem Gives.succeeds (h : Gives a d x) : Succeeds a d :=
  fun calls events => ⟨x, _, h calls events⟩

theorem Gives.bind_succeeds (h : Gives a d x) (hf : Succeeds (f x) d) : Succeeds (a >>= f) d := by
  intro calls events
  rw [runFrom_bind, h]
  exact hf calls events

theorem Gives.bind_calls (h : Gives a d x) (hf : Calls (f x) d) : Calls (a >>= f) d := by
  intro calls events
  rw [runFrom_bind, h]
  exact hf calls events

theorem Calls.bind_silent (h : Calls a d) (hf : ∀ x, Silent (f x)) : Calls (a >>= f) d := by
  intro calls events
  obtain ⟨c, rest, hc⟩ := h calls events
  refine ⟨c, rest, ?_⟩
  rw [runFrom_bind]
  split
  · next x j hj =>
    rw [hj] at hc
    exact (hf x j).2.trans hc
  · next e j hj =>
    rwa [hj] at hc

end

namespace Database

variable {d : Database κ} {e : Error}

theorem refuses_conclude (e : Error) : Refuses (conclude (.error e) : Action κ α) d e :=
  fun _ _ => rfl

theorem gives_conclude (x : α) : Gives (conclude (.ok x)) d x := fun _ _ => rfl

theorem succeeds_modifyDatabase (f : Database κ → Database κ) : Succeeds (modifyDatabase f) d :=
  fun _ _ => ⟨(), _, rfl⟩

theorem calls_call (c : ConnectionCall) (f : κ → α × κ) : Calls (call c f) d :=
  fun _ _ => ⟨c, [], rfl⟩

/-! ## The checks -/

theorem refuses_requireUsable (h : d.usableError? = some e) : Refuses requireUsable d e := by
  intro calls events
  simp [runFrom_requireUsable, h]

theorem gives_requireUsable (h : d.usableError? = none) : Gives requireUsable d d := by
  intro calls events
  simp [runFrom_requireUsable, h]

theorem refuses_requireTransaction (h : d.transaction = none) :
    Refuses requireTransaction d .noTransaction := by
  intro calls events
  simp [runFrom_requireTransaction, h]

theorem gives_requireTransaction {t : Transaction} (h : d.transaction = some t) :
    Gives requireTransaction d t := by
  intro calls events
  simp [runFrom_requireTransaction, h]

/-! ## Making commands -/

theorem transaction_bindSource (c : Command) (marker : Char) (source : ParameterSource) :
    (c.bindSource marker source).transaction = c.transaction := by
  have hproperties (args : NamedArguments) (c : Command) :
      (c.bindProperties marker args).transaction = c.transaction := by
    induction args generalizing c with
    | nil => rfl
    | cons p args ih =>
      obtain ⟨name, a⟩ := p
      refine (ih (c.bindArgument marker name a)).trans ?_
      cases a <;> rfl
  cases source with
  | empty => rfl
  | shared properties => exact hproperties properties c
  | owned properties => exact hproperties properties c
  | parameters ps => rfl

variable (text : String) (kind : CommandKind) (t : Option Transaction)

theorem newCommand_error (h : d.settings.commandTimeout.isZero = true) :
    d.newCommand text kind t = .error .zeroTimeout := by
  simp [newCommand, Command.withTimeout, h]

theorem newCommand_ok (h : d.settings.commandTimeout.isZero = false) :
    ∃ c, d.newCommand text kind t = .ok c ∧ c.transaction = t.or d.transaction := by
  simp [newCommand, Command.withTimeout, h]

variable {text kind t} (source : ParameterSource)

theorem refuses_createCommand (h : d.makingError? kind text = some e) :
    Refuses (createCommand text kind source t) d e := by
  rw [createCommand]
  rcases Option.or_eq_some_iff.1 h with h | ⟨hu, h⟩
  · exact (refuses_requireUsable h).bind
  refine (gives_requireUsable hu).bind_refuses ?_
  rcases Option.or_eq_some_iff.1 h with h | ⟨hn, h⟩
  · obtain ⟨hp, rfl⟩ := Error.when_eq_some_iff.1 h
    obtain ⟨hk, hp⟩ : kind = .procedure ∧ isProcedureName text = false := by simpa using hp
    rw [if_pos hk, checkProcedureName, hp]
    exact (refuses_conclude _).bind
  · obtain ⟨hz, rfl⟩ := Error.when_eq_some_iff.1 h
    rw [newCommand_error _ _ _ hz]
    split
    · have hp : isProcedureName text = true := by
        simpa [*] using Error.when_eq_none_iff.1 hn
      rw [checkProcedureName, hp]
      exact (gives_conclude ()).bind_refuses (refuses_conclude _).bind
    · exact (refuses_conclude _).bind

/-- A command that is made belongs to the transaction that it is given, else to the active one. -/
theorem gives_createCommand (h : d.makingError? kind text = none) :
    ∃ c, Gives (createCommand text kind source t) d c ∧ c.transaction = t.or d.transaction := by
  obtain ⟨hu, h⟩ := Option.or_eq_none_iff.1 h
  obtain ⟨hn, hz⟩ := Option.or_eq_none_iff.1 h
  obtain ⟨c, hc, ht⟩ := newCommand_ok text kind t (Error.when_eq_none_iff.1 hz)
  refine ⟨c.bindSource d.settings.marker source, (gives_requireUsable hu).bind ?_,
    (transaction_bindSource c _ source).trans ht⟩
  rw [hc]
  split
  · have hp : isProcedureName text = true := by
      simpa [*] using Error.when_eq_none_iff.1 hn
    rw [checkProcedureName, hp]
    exact (gives_conclude ()).bind ((gives_conclude c).bind gives_pure)
  · exact (gives_conclude c).bind gives_pure

theorem transaction_createCommand {c : Command}
    (h : (perform (createCommand text kind source t) d).1 = .ok c) :
    c.transaction = t.or d.transaction := by
  rw [perform] at h
  cases hm : d.makingError? kind text with
  | some e =>
    have hr : (createCommand text kind source t).run.run ⟨d, [], []⟩ = _ :=
      refuses_createCommand source hm [] []
    rw [hr] at h
    cases h
  | none =>
    obtain ⟨c', hc, ht⟩ := gives_createCommand (t := t) source hm
    have hr : (createCommand text kind source t).run.run ⟨d, [], []⟩ = _ := hc [] []
    rw [hr] at h
    cases h
    exact ht

/-- A procedure is called by a command with its name and its arguments. -/
theorem createProcedureCommand_eq (p : Procedure) :
    createProcedureCommand p t =
      createCommand (κ := κ) p.name .procedure (.parameters p.arguments) t := rfl

/-! ## Running commands -/

variable [Connection κ]

theorem refuses_requireOpen (h : d.openError? = some e) : Refuses requireOpen d e := by
  intro calls events
  simp [runFrom_requireOpen, h]

theorem gives_requireOpen (h : d.openError? = none) : Gives requireOpen d d := by
  intro calls events
  simp [runFrom_requireOpen, h]

variable {c : Command} {use : CommandUse} {made : ConnectionCall} {f : κ → Pending α × κ}
  {winner : Pending α → Winner}

theorem refuses_requireRunnable (h : d.runningError? c.transaction = some e) :
    Refuses (requireRunnable c) d e := by
  rw [requireRunnable]
  rcases Option.or_eq_some_iff.1 h with h | ⟨ho, h⟩
  · exact (refuses_requireOpen h).bind
  · obtain ⟨ht, rfl⟩ := Error.when_eq_some_iff.1 h
    refine (gives_requireOpen ho).bind_refuses ?_
    rw [if_pos (by simpa using ht)]
    exact refuses_throw

theorem refuses_runCommand (h : d.runningError? c.transaction = some e) :
    Refuses (runCommand use c made f winner) d e :=
  (refuses_requireRunnable h).bind

theorem runningError?_eq_none_iff {t : Option Transaction} :
    d.runningError? t = none ↔ d.isOpen = true ∧ t = d.transaction := by
  rw [runningError?, Option.or_eq_none_iff, openError?_eq_none_iff, Error.when_eq_none_iff]
  simp

theorem gives_requireRunnable (h : d.runningError? c.transaction = none) :
    Gives (requireRunnable c) d () := by
  obtain ⟨ho, ht⟩ := runningError?_eq_none_iff.1 h
  refine (gives_requireOpen (openError?_eq_none_iff.2 ho)).bind ?_
  rw [if_neg (not_not_intro ht)]
  exact gives_pure

/-- A command that may run is the first to be sent. -/
theorem sends_runCommand (h : d.runningError? c.transaction = none) (calls : List ConnectionCall)
    (events : List LogEvent) :
    ∃ rest, (runFrom (runCommand use c made f winner) ⟨d, calls, events⟩).2.calls =
      calls ++ made :: rest := by
  obtain ⟨rest, -, hcalls, -⟩ := settle_calls use c (f d.connection).1
    (winner (f d.connection).1)
    ⟨{ d with connection := (f d.connection).2 }, calls ++ [made], events⟩
  refine ⟨rest, ?_⟩
  rw [runCommand, runFrom_bind, gives_requireRunnable h calls events]
  show (runFrom (call made f >>= _) ⟨d, calls, events⟩).2.calls = _
  rw [runFrom_bind, runFrom_call]
  exact hcalls.trans (List.append_assoc _ _ _)

theorem calls_runCommand (h : d.runningError? c.transaction = none) :
    Calls (runCommand use c made f winner) d :=
  fun calls events => ⟨made, sends_runCommand h calls events⟩

/-- A command made in `d` without a transaction of its own is in the right one there. -/
theorem runningError?_of_joined (h : c.transaction = (none : Option Transaction).or d.transaction) :
    d.runningError? c.transaction = d.openError? := by
  simp [runningError?, h, Error.when]

theorem refuses_createCommand_bind {g : Command → Action κ α}
    (h : (d.makingError? kind text).or d.openError? = some e)
    (hg : ∀ c : Command, d.runningError? c.transaction = some e → Refuses (g c) d e) :
    Refuses (createCommand text kind source none >>= g) d e := by
  rcases Option.or_eq_some_iff.1 h with h | ⟨hm, h⟩
  · exact (refuses_createCommand source h).bind
  · obtain ⟨c, hc, ht⟩ := gives_createCommand (t := none) source hm
    exact hc.bind_refuses (hg c (by rw [runningError?_of_joined ht, h]))

theorem calls_createCommand_bind {g : Command → Action κ α}
    (h : (d.makingError? kind text).or d.openError? = none)
    (hg : ∀ c : Command, d.runningError? c.transaction = none → Calls (g c) d) :
    Calls (createCommand text kind source none >>= g) d := by
  obtain ⟨hm, ho⟩ := Option.or_eq_none_iff.1 h
  obtain ⟨c, hc, ht⟩ := gives_createCommand (t := none) source hm
  exact hc.bind_calls (hg c (by rw [runningError?_of_joined ht, ho]))

end Database

/-! ## Operations -/

namespace Operation

open Database

variable [Connection κ] {d : Database κ} {e : Error} {op : Operation κ}

/-- An operation with an objection fails with it and does nothing. -/
theorem refuses_run (h : op.refusal? d = some e) : Refuses op.run d e := by
  cases op with
  | connectionString | connectionState | openConnection | closeConnection =>
    exact (refuses_requireUsable h).bind.bind
  | setConnection connection =>
    refine Refuses.bind ?_
    rw [Database.setConnection]
    rcases Option.or_eq_some_iff.1 h with h | ⟨hu, h⟩
    · exact (refuses_requireUsable h).bind
    · obtain ⟨ht, rfl⟩ := Error.when_eq_some_iff.1 h
      refine (gives_requireUsable hu).bind_refuses ?_
      rw [if_pos ht]
      exact refuses_throw.bind
  | dispose => cases h
  | batch sql => exact (refuses_requireOpen h).bind.bind
  | begin level readOnly =>
    refine Refuses.bind (a := Database.begin level readOnly) (f := fun t => pure (some t)) ?_
    rw [Database.begin]
    rcases Option.or_eq_some_iff.1 h with h | ⟨ho, h⟩
    · exact (refuses_requireOpen h).bind
    · obtain ⟨ht, rfl⟩ := Error.when_eq_some_iff.1 h
      refine (gives_requireOpen ho).bind_refuses ?_
      rw [if_pos ht]
      exact refuses_throw.bind
  | finish how =>
    refine Refuses.bind ?_
    rw [Database.finish]
    rcases Option.or_eq_some_iff.1 h with h | ⟨ho, h⟩
    · exact (refuses_requireOpen h).bind
    · obtain ⟨ht, rfl⟩ := Error.when_eq_some_iff.1 h
      exact (gives_requireOpen ho).bind_refuses
        (refuses_requireTransaction (Option.isNone_iff_eq_none.1 ht)).bind
  | savepoint action name =>
    refine Refuses.bind ?_
    rw [Database.savepoint]
    rcases Option.or_eq_some_iff.1 h with h | ⟨ho, h⟩
    · exact (refuses_requireOpen h).bind
    refine (gives_requireOpen ho).bind_refuses ?_
    rcases Option.or_eq_some_iff.1 h with h | ⟨ht, h⟩
    · obtain ⟨ht, rfl⟩ := Error.when_eq_some_iff.1 h
      exact (refuses_requireTransaction (Option.isNone_iff_eq_none.1 ht)).bind
    · obtain ⟨hn, rfl⟩ := Error.when_eq_some_iff.1 h
      obtain ⟨t, ht⟩ := Error.when_isNone_eq_none_iff.1 ht
      refine (gives_requireTransaction ht).bind_refuses ?_
      rw [SavepointAction.sql, if_neg (by simpa using hn)]
      exact (refuses_conclude _).bind
  | setCommandTimeout timeout =>
    refine Refuses.bind ?_
    obtain ⟨hz, rfl⟩ := Error.when_eq_some_iff.1 h
    rw [Database.setCommandTimeout, if_pos hz]
    exact refuses_throw.bind
  | createCommand text kind source t => exact (refuses_createCommand source h).bind
  | createProcedureCommand p t => exact (refuses_createCommand (.parameters p.arguments) h).bind
  | executeCommand c cancel | queryCommand c cancel => exact (refuses_runCommand h).bind
  | execute sql source cancel | query sql source cancel =>
    exact (refuses_createCommand_bind source h fun _ => refuses_runCommand).bind
  | scalar sql source cancel target | queryAs sql source cancel m | openReader sql source
  | queryOne sql source m | queryOnly sql source m | queryOptional sql source m =>
    exact (refuses_createCommand_bind source h fun _ => refuses_runCommand).bind.bind
  | callProcedure p =>
    refine Refuses.bind ?_
    rw [Database.callProcedure, createProcedureCommand_eq]
    exact refuses_createCommand_bind _ h fun _ h => (refuses_runCommand h).bind
  | queryProcedure p m =>
    refine Refuses.bind ?_
    rw [Database.queryProcedure, createProcedureCommand_eq]
    exact refuses_createCommand_bind _ h fun _ h => (refuses_runCommand h).bind

/-- A refused operation leaves the object as it is, makes no call and logs nothing. -/
theorem perform_of_refusal (h : op.refusal? d = some e) :
    perform op.run d = (.error e, ⟨d, [], []⟩) :=
  refuses_run h [] []

/-- An operation without an objection succeeds or makes a call. -/
theorem isOk_or_calls (h : op.refusal? d = none) :
    (perform op.run d).1 = .ok none ∨ (perform op.run d).2.calls ≠ [] := by
  have of_succeeds {α : Type} {a : Action κ α} (ha : Succeeds a d) :
      (perform (ignoring a) d).1 = .ok none ∨ (perform (ignoring a) d).2.calls ≠ [] := by
    obtain ⟨x, j, hx⟩ := ha [] []
    left
    rw [perform_ignoring hx]
    rfl
  have of_calls {α : Type} {a : Action κ α} (ha : Calls a d) :
      (perform (ignoring a) d).1 = .ok none ∨ (perform (ignoring a) d).2.calls ≠ [] := by
    obtain ⟨c, rest, hc⟩ := ha [] []
    right
    rw [journal_ignoring, hc]
    exact List.cons_ne_nil c rest
  cases op with
  | connectionString | connectionState =>
    exact of_succeeds ((gives_requireUsable h).bind_succeeds fun _ _ => ⟨_, _, rfl⟩)
  | setConnection connection =>
    obtain ⟨hu, ht⟩ := Option.or_eq_none_iff.1 h
    refine of_succeeds ((gives_requireUsable hu).bind_succeeds ?_)
    rw [if_neg (by simpa using Error.when_eq_none_iff.1 ht)]
    exact succeeds_modifyDatabase _
  | openConnection =>
    exact of_calls ((gives_requireUsable h).bind_calls
      ((calls_call _ _).bind_silent fun _ => silent_conclude _))
  | closeConnection =>
    refine of_calls fun calls events => ?_
    obtain ⟨events', hr⟩ := runFrom_closeConnection (j := ⟨d, calls, events⟩) h
    rw [hr]
    exact d.exists_farewell.imp fun c ⟨rest, hc⟩ => ⟨rest, congrArg (calls ++ ·) hc⟩
  | dispose =>
    cases hu : d.isDisposed with
    | true => exact of_succeeds fun calls events => ⟨(), _, runFrom_dispose_again hu⟩
    | false =>
      refine of_calls fun calls events => ?_
      obtain ⟨events', hr⟩ := runFrom_dispose (j := ⟨d, calls, events⟩) hu
      rw [hr]
      exact d.exists_farewell.imp fun c ⟨rest, hc⟩ => ⟨rest, congrArg (calls ++ ·) hc⟩
  | batch sql =>
    exact of_calls ((gives_requireOpen h).bind_calls
      ((calls_call _ _).bind_silent fun _ => silent_conclude _))
  | begin level readOnly =>
    obtain ⟨ho, ht⟩ := Option.or_eq_none_iff.1 h
    have ht : d.transaction = none := Error.when_isSome_eq_none_iff.1 ht
    obtain ⟨events, hr⟩ := runFrom_begin level readOnly (j := ⟨d, [], []⟩) ho ht
    right
    show (runFrom (some <$> Database.begin level readOnly) ⟨d, [], []⟩).2.calls ≠ []
    rw [runFrom_map, hr]
    split <;> exact List.cons_ne_nil _ _
  | finish how =>
    obtain ⟨ho, ht⟩ := Option.or_eq_none_iff.1 h
    obtain ⟨t, ht⟩ := Error.when_isNone_eq_none_iff.1 ht
    refine of_calls fun calls events => ?_
    obtain ⟨events', hr⟩ := runFrom_finish how (j := ⟨d, calls, events⟩) ho ht
    rw [hr]
    exact ⟨_, [], rfl⟩
  | savepoint action name =>
    obtain ⟨ho, h⟩ := Option.or_eq_none_iff.1 h
    obtain ⟨ht, hn⟩ := Option.or_eq_none_iff.1 h
    obtain ⟨t, ht⟩ := Error.when_isNone_eq_none_iff.1 ht
    refine of_calls ((gives_requireOpen ho).bind_calls
      ((gives_requireTransaction ht).bind_calls ?_))
    rw [SavepointAction.sql, if_pos (by simpa using Error.when_eq_none_iff.1 hn)]
    refine (gives_conclude _).bind_calls fun calls events => ?_
    exact ((calls_call _ _).bind_silent fun _ => silent_conclude _) calls _
  | setCommandTimeout timeout =>
    refine of_succeeds ?_
    rw [Database.setCommandTimeout, if_neg (by simpa using Error.when_eq_none_iff.1 h)]
    exact succeeds_modifyDatabase _
  | createCommand text kind source t =>
    obtain ⟨c, hc, -⟩ := gives_createCommand source h
    exact of_succeeds hc.succeeds
  | createProcedureCommand p t =>
    obtain ⟨c, hc, -⟩ := gives_createCommand (.parameters p.arguments) h
    exact of_succeeds hc.succeeds
  | executeCommand c cancel | queryCommand c cancel => exact of_calls (calls_runCommand h)
  | execute sql source cancel | query sql source cancel =>
    exact of_calls (calls_createCommand_bind source h fun _ => calls_runCommand)
  | scalar sql source cancel target | queryAs sql source cancel m
  | queryOne sql source m | queryOnly sql source m | queryOptional sql source m =>
    exact of_calls ((calls_createCommand_bind source h fun _ => calls_runCommand).bind_silent
      fun _ => silent_conclude _)
  | openReader sql source =>
    exact of_calls ((calls_createCommand_bind source h fun _ => calls_runCommand).bind_silent
      fun _ => Silent.pure _)
  | callProcedure p =>
    refine of_calls ?_
    rw [Database.callProcedure, createProcedureCommand_eq]
    exact calls_createCommand_bind _ h fun _ h =>
      (calls_runCommand h).bind_silent fun _ => Silent.pure _
  | queryProcedure p m =>
    refine of_calls ?_
    rw [Database.queryProcedure, createProcedureCommand_eq]
    exact calls_createCommand_bind _ h fun _ h =>
      (calls_runCommand h).bind_silent fun _ => silent_conclude _

end Operation

end SqlAccess

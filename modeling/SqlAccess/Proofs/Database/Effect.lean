import SqlAccess.Proofs.Database.Operation

/-!
# Effects of operations

What an operation may do to a database object and its connection (`Database.Effect`): each does
one of nine things, guards included (`Operation.effect_run`). A property that every one of them
keeps is kept by every run.
-/

namespace SqlAccess

variable {κ α β : Type}

/-! ## Calls -/

/-- The connection after a call on it. -/
def ConnectionCall.after [Connection κ] (k : κ) : ConnectionCall → κ
  | .connect => (Connection.connect k).2
  | .disconnect => (Connection.disconnect k).2
  | .batch sql => (Connection.batch sql k).2
  | .execute c => (Connection.execute c k).2
  | .query c => (Connection.query c k).2
  | .cancel => (Connection.cancel k).2

/-- Whether a call on a connection succeeds. -/
def ConnectionCall.succeeds [Connection κ] (k : κ) : ConnectionCall → Bool
  | .connect => (Connection.connect k).1.isOk
  | .disconnect => (Connection.disconnect k).1.isOk
  | .batch sql => (Connection.batch sql k).1.isOk
  | .execute c => (Connection.execute c k).1.result.isOk
  | .query c => (Connection.query c k).1.result.isOk
  | .cancel => (Connection.cancel k).1.isOk

/-- Whether a call runs a statement of the caller in the transaction that is active. -/
def ConnectionCall.isOwn (d : Database κ) : ConnectionCall → Prop
  | .batch _ => True
  | .execute c => c.transaction = d.transaction
  | .query c => c.transaction = d.transaction
  | _ => False

/-- Whether a call runs statements. -/
def ConnectionCall.isStatement : ConnectionCall → Bool
  | .batch _ | .execute _ | .query _ => true
  | _ => false

/-- The transaction that the command of a call belongs to. -/
def ConnectionCall.handle? : ConnectionCall → Option Transaction
  | .execute c | .query c => c.transaction
  | _ => none

theorem isStatement_of_isOwn {d : Database κ} {c : ConnectionCall} (hc : c.isOwn d) :
    c.isStatement = true := by
  cases c with
  | batch sql => rfl
  | execute command => rfl
  | query command => rfl
  | connect => cases hc
  | disconnect => cases hc
  | cancel => cases hc

theorem not_connect_of_isOwn {d : Database κ} {c : ConnectionCall} {rest : List ConnectionCall}
    (hc : c.isOwn d) (hr : rest = [] ∨ rest = [.cancel]) : .connect ∉ c :: rest := by
  have hne : c ≠ .connect := by
    rintro rfl
    exact hc
  rcases hr with rfl | rfl <;> simpa using hne.symm

namespace Database

variable [Connection κ]

/-- The object after some calls on its connection. -/
def calling (d : Database κ) (calls : List ConnectionCall) : Database κ :=
  { d with connection := calls.foldl ConnectionCall.after d.connection }

theorem calling_calling (d : Database κ) (calls more : List ConnectionCall) :
    (d.calling calls).calling more = d.calling (calls ++ more) := by
  simp [calling, List.foldl_append]

/-- The call that gives up the active transaction, if there is one and the connection is open. -/
def pendingRollback (d : Database κ) : List ConnectionCall :=
  if d.transaction.isSome && (Connection.state d.connection).isOpen then
    [.batch Transaction.rollbackSql]
  else []

/-- The calls that close the connection. -/
def farewell (d : Database κ) : List ConnectionCall :=
  d.pendingRollback ++ [.disconnect]

theorem exists_farewell (d : Database κ) : ∃ c rest, d.farewell = c :: rest :=
  List.exists_cons_of_ne_nil (by simp [farewell])

/-- What an operation may do to an object: the transaction it begins, the object after it and the
calls it makes. `own` says whether it may send statements of the caller, and `offered` is the
connection that it may put in the place of the present one. -/
inductive Effect (own : Bool) (offered : Option κ) (d : Database κ) :
    Option Transaction → Database κ → List ConnectionCall → Prop
  | kept (settings : Settings) : Effect own offered d none { d with settings } []
  | replaced (connection : κ) (hk : offered = some connection) (hu : d.isDisposed = false)
      (ht : d.transaction = none) :
      Effect own offered d none { d with connection } []
  | connected (hu : d.isDisposed = false) :
      Effect own offered d none (d.calling [.connect]) [.connect]
  | left (isDisposed : Bool) (hu : d.isDisposed = false) :
      Effect own offered d none
        { d.calling d.farewell with transaction := none, isDisposed } d.farewell
  | refused (t : Transaction) (ho : d.isOpen = true) (ht : d.transaction = none)
      (hs : ConnectionCall.succeeds d.connection (.batch t.beginSql) = false) :
      Effect own offered d none
        { d.calling [.batch t.beginSql] with nextTransaction := d.nextTransaction + 1 }
        [.batch t.beginSql]
  | begun (t : Transaction) (ho : d.isOpen = true) (ht : d.transaction = none)
      (hid : t.id = d.nextTransaction)
      (hs : ConnectionCall.succeeds d.connection (.batch t.beginSql) = true) :
      Effect own offered d (some t)
        { d.calling [.batch t.beginSql] with
          nextTransaction := d.nextTransaction + 1, transaction := some t }
        [.batch t.beginSql]
  | finished (how : TransactionEnd) (t : Transaction) (ho : d.isOpen = true)
      (ht : d.transaction = some t) :
      Effect own offered d none
        { d.calling [.batch how.sql] with transaction := none } [.batch how.sql]
  | saved (action : SavepointAction) (name sql : String) (t : Transaction)
      (ho : d.isOpen = true) (ht : d.transaction = some t) (hs : action.sql name = .ok sql) :
      Effect own offered d none (d.calling [.batch sql]) [.batch sql]
  | sent (c : ConnectionCall) (rest : List ConnectionCall) (hown : own = true)
      (ho : d.isOpen = true) (hc : c.isOwn d) (hr : rest = [] ∨ rest = [.cancel]) :
      Effect own offered d none (d.calling (c :: rest)) (c :: rest)

theorem Effect.unchanged {own : Bool} {offered : Option κ} (d : Database κ) :
    Effect own offered d none d [] :=
  .kept d.settings

/-- An operation replaces the connection, opens it, or makes calls in the session at hand. -/
theorem Effect.connection_cases {own : Bool} {offered : Option κ} {d d' : Database κ}
    {b : Option Transaction} {calls : List ConnectionCall}
    (h : Effect own offered d b d' calls) :
    (offered = some d'.connection ∧ d.transaction = none ∧ b = none ∧ calls = []) ∨
    (d'.connection = ConnectionCall.after d.connection .connect ∧
      d'.transaction = d.transaction ∧ b = none ∧ calls = [.connect]) ∨
    (.connect ∉ calls ∧ d'.connection = calls.foldl ConnectionCall.after d.connection ∧
      (b.isSome = true → calls ≠ [])) := by
  cases h with
  | kept settings => exact .inr (.inr ⟨nofun, rfl, nofun⟩)
  | replaced connection hk hu ht => exact .inl ⟨hk, ht, rfl, rfl⟩
  | connected hu => exact .inr (.inl ⟨rfl, rfl, rfl, rfl⟩)
  | left isDisposed hu =>
    refine .inr (.inr ⟨?_, rfl, nofun⟩)
    rw [farewell, pendingRollback]
    split <;> simp
  | refused t ho ht hs => exact .inr (.inr ⟨by simp, rfl, nofun⟩)
  | begun t ho ht hid hs => exact .inr (.inr ⟨by simp, rfl, nofun⟩)
  | finished how t ho ht => exact .inr (.inr ⟨by simp, rfl, nofun⟩)
  | saved action name sql t ho ht hs => exact .inr (.inr ⟨by simp, rfl, nofun⟩)
  | sent c rest hown ho hc hr => exact .inr (.inr ⟨not_connect_of_isOwn hc hr, rfl, nofun⟩)

/-- Which calls an operation may make while a transaction is active, and which not. -/
theorem Effect.calls_within {own : Bool} {offered : Option κ} {d d' : Database κ}
    {b : Option Transaction} {calls : List ConnectionCall}
    (h : Effect own offered d b d' calls) {c : ConnectionCall} (hc : c ∈ calls) :
    (c.isStatement = true → (Connection.state d.connection).isOpen = true) ∧
      (∀ t, c.handle? = some t → d.transaction = some t) ∧
      (own = false → ∀ sql, c = .batch sql →
        d.transaction.isSome = true ∨ ∃ t : Transaction, sql = t.beginSql) := by
  have hopen (ho : d.isOpen = true) : (Connection.state d.connection).isOpen = true :=
    (Bool.and_eq_true_iff.1 ho).2
  cases h with
  | kept settings => cases hc
  | replaced connection hk hu ht => cases hc
  | connected hu =>
    cases List.mem_singleton.1 hc
    exact ⟨nofun, nofun, nofun⟩
  | left isDisposed hu =>
    rcases List.mem_append.1 hc with hc | hc
    · rw [pendingRollback] at hc
      split at hc
      · next h =>
        obtain ⟨ht, ho⟩ := Bool.and_eq_true_iff.1 h
        cases List.mem_singleton.1 hc
        exact ⟨fun _ => ho, nofun, fun _ _ _ => .inl ht⟩
      · cases hc
    · cases List.mem_singleton.1 hc
      exact ⟨nofun, nofun, nofun⟩
  | refused t ho ht hs =>
    cases List.mem_singleton.1 hc
    refine ⟨fun _ => hopen ho, nofun, fun _ sql hsql => .inr ⟨t, ?_⟩⟩
    cases hsql
    rfl
  | begun t ho ht hid hs =>
    cases List.mem_singleton.1 hc
    refine ⟨fun _ => hopen ho, nofun, fun _ sql hsql => .inr ⟨t, ?_⟩⟩
    cases hsql
    rfl
  | finished how t ho ht =>
    cases List.mem_singleton.1 hc
    exact ⟨fun _ => hopen ho, nofun, fun _ _ _ => .inl (by rw [ht]; rfl)⟩
  | saved action name sql t ho ht hs =>
    cases List.mem_singleton.1 hc
    exact ⟨fun _ => hopen ho, nofun, fun _ _ _ => .inl (by rw [ht]; rfl)⟩
  | sent made rest hown ho hmade hr =>
    refine ⟨fun _ => hopen ho, ?_, fun h => absurd (h.symm.trans hown) nofun⟩
    rcases List.mem_cons.1 hc with rfl | hc
    · intro t ht
      cases c with
      | execute command => exact hmade.symm.trans ht
      | query command => exact hmade.symm.trans ht
      | _ => cases ht
    · rcases hr with rfl | rfl
      · cases hc
      · cases List.mem_singleton.1 hc
        exact nofun

end Database

open Database

variable [Connection κ] {own : Bool} {offered : Option κ}

/-! ## Actions with an effect -/

theorem effect_nothing (j : Journal κ) :
    ∃ calls, j.calls = j.calls ++ calls ∧ Effect own offered j.database none j.database calls :=
  ⟨[], (List.append_nil _).symm, .unchanged _⟩

/-- An action that begins no transaction and has an effect, whatever comes of it. -/
def Leads (own : Bool) (offered : Option κ) (a : Action κ α) : Prop :=
  ∀ j, ∃ calls, (runFrom a j).2.calls = j.calls ++ calls ∧
    Effect own offered j.database none (runFrom a j).2.database calls

theorem Silent.leads {a : Action κ α} (h : Silent a) : Leads own offered a := by
  intro j
  obtain ⟨hd, hc⟩ := h j
  refine ⟨[], by rw [hc, List.append_nil], ?_⟩
  rw [hd]
  exact .unchanged _

/-- What comes before an effect may be silent. -/
theorem Silent.bind_leads {a : Action κ α} {f : α → Action κ β} (ha : Silent a)
    (hf : ∀ x, Leads own offered (f x)) : Leads own offered (a >>= f) := by
  intro j
  obtain ⟨hd, hc⟩ := ha j
  rw [runFrom_bind]
  split
  · next x j' h =>
    rw [h] at hd hc
    obtain ⟨calls, hcalls, he⟩ := hf x j'
    rw [hc] at hcalls
    rw [hd] at he
    exact ⟨calls, hcalls, he⟩
  · next e j' h =>
    rw [h] at hd hc
    refine ⟨[], by rw [hc, List.append_nil], ?_⟩
    rw [hd]
    exact .unchanged _

/-- What comes after an effect may be silent. -/
theorem Leads.bind_silent {a : Action κ α} {f : α → Action κ β} (ha : Leads own offered a)
    (hf : ∀ x, Silent (f x)) : Leads own offered (a >>= f) := by
  intro j
  obtain ⟨calls, hcalls, he⟩ := ha j
  rw [runFrom_bind]
  split
  · next x j' h =>
    rw [h] at hcalls he
    obtain ⟨hd, hc⟩ := hf x j'
    refine ⟨calls, hc.trans hcalls, ?_⟩
    rwa [hd]
  · next e j' h =>
    rw [h] at hcalls he
    exact ⟨calls, hcalls, he⟩

theorem Leads.ignoring {a : Action κ α} (ha : Leads own offered a) :
    Leads own offered (ignoring a) :=
  ha.bind_silent fun _ => Silent.pure none

/-! ## The connection -/

theorem leads_setConnection (connection : κ) :
    Leads own (some connection) (setConnection connection) := by
  intro j
  simp only [setConnection, runFrom_bind, runFrom_requireUsable]
  cases hu : j.database.usableError? with
  | some e => exact effect_nothing j
  | none =>
    by_cases ht : j.database.transaction.isSome
    · simp only [if_pos ht, runFrom_bind, runFrom_throw]
      exact effect_nothing j
    · simp only [if_neg ht, runFrom_modifyDatabase]
      have ht : j.database.transaction = none := by simpa using ht
      exact ⟨[], (List.append_nil _).symm,
        .replaced connection rfl (usableError?_eq_none_iff.1 hu) ht⟩

theorem leads_openConnection : Leads own offered (openConnection (κ := κ)) := by
  intro j
  simp only [openConnection, connect, runFrom_bind, runFrom_requireUsable]
  cases hu : j.database.usableError? with
  | some e => exact effect_nothing j
  | none =>
    simp only [runFrom_call, runFrom_conclude]
    exact ⟨[.connect], rfl, .connected (usableError?_eq_none_iff.1 hu)⟩

theorem runFrom_abandonTransaction (j : Journal κ) :
    ∃ events, runFrom abandonTransaction j =
      (.ok (), ⟨{ j.database.calling j.database.pendingRollback with transaction := none },
        j.calls ++ j.database.pendingRollback, events⟩) := by
  obtain ⟨d, calls, events⟩ := j
  rw [abandonTransaction, runFrom_bind, runFrom_current]
  cases ht : d.transaction with
  | none =>
    refine ⟨events, ?_⟩
    have hnone : d.pendingRollback = [] := by simp [pendingRollback, ht]
    simp only [ht, Option.isSome_none, Bool.false_eq_true, if_false, runFrom_pure, hnone,
      List.append_nil]
    rw [← ht]
    rfl
  | some t =>
    cases ho : (Connection.state d.connection).isOpen with
    | false =>
      refine ⟨events, ?_⟩
      have hnone : d.pendingRollback = [] := by simp [pendingRollback, ho]
      simp only [ht, Option.isSome_some, if_true, runFrom_bind, runFrom_modifyDatabase, ho,
        Bool.false_eq_true, if_false, runFrom_pure, hnone, List.append_nil]
      rfl
    | true =>
      have hsome : d.pendingRollback = [.batch Transaction.rollbackSql] := by
        simp [pendingRollback, ht, ho]
      simp only [ht, Option.isSome_some, if_true, runFrom_bind, runFrom_modifyDatabase, ho,
        callBatch, runFrom_call, hsome]
      split
      · exact ⟨_, rfl⟩
      · exact ⟨_, rfl⟩

/-- Closing gives up the active transaction, and closes the connection whatever comes of that. -/
theorem runFrom_closeConnection {j : Journal κ} (hu : j.database.usableError? = none) :
    ∃ events, runFrom closeConnection j =
      ((Connection.disconnect (j.database.calling j.database.pendingRollback).connection).1,
        ⟨{ j.database.calling j.database.farewell with transaction := none },
          j.calls ++ j.database.farewell, events⟩) := by
  obtain ⟨events, h⟩ := runFrom_abandonTransaction j
  refine ⟨events, ?_⟩
  simp only [closeConnection, disconnect, runFrom_bind, runFrom_requireUsable, hu, h, runFrom_call,
    runFrom_conclude]
  simp [calling, farewell, List.foldl_append, ConnectionCall.after]

theorem leads_closeConnection : Leads own offered (closeConnection (κ := κ)) := by
  intro j
  cases hu : j.database.usableError? with
  | some e =>
    simp only [closeConnection, runFrom_bind, runFrom_requireUsable, hu]
    exact effect_nothing j
  | none =>
    obtain ⟨events, h⟩ := runFrom_closeConnection hu
    rw [h]
    exact ⟨_, rfl, .left j.database.isDisposed (usableError?_eq_none_iff.1 hu)⟩

theorem runFrom_dispose {j : Journal κ} (hu : j.database.isDisposed = false) :
    ∃ events, runFrom dispose j =
      ((Connection.disconnect (j.database.calling j.database.pendingRollback).connection).1,
        ⟨{ j.database.calling j.database.farewell with transaction := none, isDisposed := true },
          j.calls ++ j.database.farewell, events⟩) := by
  obtain ⟨events, h⟩ := runFrom_abandonTransaction
    { j with database := { j.database with isDisposed := true } }
  refine ⟨events ++ [.disposed], ?_⟩
  simp only [dispose, disconnect, runFrom_bind, runFrom_current, hu, Bool.not_false, if_true,
    runFrom_modifyDatabase, h, runFrom_log, runFrom_call, runFrom_conclude]
  simp [calling, farewell, pendingRollback, List.foldl_append, ConnectionCall.after]

theorem runFrom_dispose_again {j : Journal κ} (hu : j.database.isDisposed = true) :
    runFrom dispose j = (.ok (), j) := by
  simp [dispose, runFrom_bind, runFrom_current, hu, runFrom_pure]

theorem leads_dispose : Leads own offered (dispose (κ := κ)) := by
  intro j
  cases hu : j.database.isDisposed with
  | true =>
    rw [runFrom_dispose_again hu]
    exact effect_nothing j
  | false =>
    obtain ⟨events, h⟩ := runFrom_dispose hu
    rw [h]
    exact ⟨_, rfl, .left true hu⟩

/-! ## Statements -/

theorem leads_batch (sql : String) : Leads true offered (batch (κ := κ) sql) := by
  intro j
  simp only [batch, callBatch, runFrom_bind, runFrom_requireOpen]
  cases ho : j.database.openError? with
  | some e => exact effect_nothing j
  | none =>
    simp only [runFrom_call, runFrom_conclude]
    have ho := openError?_eq_none_iff.1 ho
    exact ⟨[.batch sql], rfl, .sent (.batch sql) [] rfl ho trivial (.inl rfl)⟩

/-- Ending the active transaction succeeds as its statement does; it is over in any case. -/
theorem runFrom_finish (how : TransactionEnd) {j : Journal κ} {t : Transaction}
    (ho : j.database.openError? = none) (ht : j.database.transaction = some t) :
    ∃ events, runFrom (finish how) j =
      ((Connection.batch how.sql j.database.connection).1,
        ⟨{ j.database.calling [.batch how.sql] with transaction := none },
          j.calls ++ [.batch how.sql], events⟩) := by
  simp only [finish, callBatch, runFrom_bind, runFrom_requireOpen, ho, runFrom_requireTransaction,
    ht, runFrom_modifyDatabase, runFrom_call]
  cases (Connection.batch how.sql j.database.connection).1 with
  | ok _ => exact ⟨_, rfl⟩
  | error e => exact ⟨_, rfl⟩

theorem leads_finish (how : TransactionEnd) : Leads own offered (finish (κ := κ) how) := by
  intro j
  cases ho : j.database.openError? with
  | some e =>
    simp only [finish, runFrom_bind, runFrom_requireOpen, ho]
    exact effect_nothing j
  | none =>
    cases ht : j.database.transaction with
    | none =>
      simp only [finish, runFrom_bind, runFrom_requireOpen, ho, runFrom_requireTransaction, ht]
      exact effect_nothing j
    | some t =>
      obtain ⟨events, h⟩ := runFrom_finish how ho ht
      rw [h]
      exact ⟨_, rfl, .finished how t (openError?_eq_none_iff.1 ho) ht⟩

theorem leads_savepoint (action : SavepointAction) (name : String) :
    Leads own offered (savepoint (κ := κ) action name) := by
  intro j
  simp only [savepoint, callBatch, runFrom_bind, runFrom_requireOpen]
  cases ho : j.database.openError? with
  | some e => exact effect_nothing j
  | none =>
    simp only [runFrom_requireTransaction]
    cases ht : j.database.transaction with
    | none => exact effect_nothing j
    | some t =>
      simp only [runFrom_conclude]
      cases hs : action.sql name with
      | error e => exact effect_nothing j
      | ok sql =>
        simp only [runFrom_log, runFrom_call]
        exact ⟨[.batch sql], rfl, .saved action name sql t (openError?_eq_none_iff.1 ho) ht hs⟩

theorem leads_setCommandTimeout (timeout : Duration) :
    Leads own offered (setCommandTimeout (κ := κ) timeout) := by
  intro j
  simp only [setCommandTimeout]
  split
  · exact effect_nothing j
  · exact ⟨[], (List.append_nil _).symm, .kept _⟩

/-! ## Commands -/

theorem runFrom_requestCancel (j : Journal κ) :
    ∃ events, runFrom requestCancel j =
      (.ok (), ⟨j.database.calling [.cancel], j.calls ++ [.cancel], events⟩) := by
  rw [requestCancel, runFrom_bind, runFrom_call]
  cases (Connection.cancel j.database.connection).1 with
  | ok _ => exact ⟨_, rfl⟩
  | error e => exact ⟨_, rfl⟩

theorem runFrom_cancel_silent {a : Action κ α} (ha : Silent a) (j : Journal κ) :
    (runFrom (do requestCancel; a) j).2.calls = j.calls ++ [.cancel] ∧
      (runFrom (do requestCancel; a) j).2.database = j.database.calling [.cancel] := by
  obtain ⟨events, h⟩ := runFrom_requestCancel j
  rw [runFrom_bind, h]
  obtain ⟨hd, hc⟩ := ha ⟨j.database.calling [.cancel], j.calls ++ [.cancel], events⟩
  exact ⟨hc, hd⟩

/-- Waiting for a command makes at most one call, which cancels it. -/
theorem settle_calls (use : CommandUse) (c : Command) (p : Pending α) (w : Winner)
    (j : Journal κ) :
    ∃ rest, (rest = [] ∨ rest = [.cancel]) ∧
      (runFrom (settle use c p w) j).2.calls = j.calls ++ rest ∧
      (runFrom (settle use c p w) j).2.database = j.database.calling rest := by
  have hlogged (elapsed : Duration) (result : Except Error α) :
      Silent (do logCommand (κ := κ) use c elapsed result; conclude result) :=
    (silent_logCommand use c elapsed result).bind fun _ => silent_conclude result
  cases w with
  | completion =>
    obtain ⟨hd, hc⟩ := hlogged (p.delay.getD ⟨0⟩) p.result j
    exact ⟨[], .inl rfl, hc.trans (List.append_nil _).symm, hd⟩
  | timeout => exact ⟨[.cancel], .inr rfl, runFrom_cancel_silent (hlogged _ _) j⟩
  | cancellation => exact ⟨[.cancel], .inr rfl, runFrom_cancel_silent (hlogged _ _) j⟩

theorem leads_runCommand {use : CommandUse} {c : Command} {made : ConnectionCall}
    {f : κ → Pending α × κ} {winner : Pending α → Winner} (hf : ∀ k, (f k).2 = made.after k)
    (hc : ∀ d : Database κ, c.transaction = d.transaction → made.isOwn d) :
    Leads true offered (runCommand use c made f winner) := by
  intro j
  simp only [runCommand, requireRunnable, runFrom_bind, runFrom_requireOpen]
  cases ho : j.database.openError? with
  | some e => exact effect_nothing j
  | none =>
    by_cases ht : c.transaction = j.database.transaction
    · simp only [ht, ne_eq, not_true_eq_false, if_false, runFrom_pure, runFrom_call]
      obtain ⟨rest, hrest, hcalls, hd⟩ := settle_calls use c
        (f j.database.connection).1 (winner (f j.database.connection).1)
        { j with
          database := { j.database with connection := (f j.database.connection).2 }
          calls := j.calls ++ [made] }
      refine ⟨made :: rest, by rw [hcalls]; simp, ?_⟩
      rw [hd, calling, hf]
      exact .sent made rest rfl (openError?_eq_none_iff.1 ho) (hc _ ht) hrest
    · simp only [ne_eq, ht, not_false_eq_true, if_true, runFrom_throw]
      exact effect_nothing j

theorem leads_executeCommand (c : Command) (cancel : Option Duration) :
    Leads true offered (executeCommand (κ := κ) c cancel) :=
  leads_runCommand (fun _ => rfl) fun _ h => h

theorem leads_queryCommand (c : Command) (cancel : Option Duration) :
    Leads true offered (queryCommand (κ := κ) c cancel) :=
  leads_runCommand (fun _ => rfl) fun _ h => h

theorem leads_query (sql : String) (source : ParameterSource) (cancel : Option Duration) :
    Leads true offered (query (κ := κ) sql source cancel) :=
  (silent_createCommand sql .text source none).bind_leads fun c => leads_queryCommand c cancel

/-! ## Operations -/

/-- A transaction takes a number before its `BEGIN` is sent, and is active if that succeeds. -/
theorem runFrom_begin (level : IsolationLevel) (readOnly : Bool) {j : Journal κ}
    (ho : j.database.openError? = none) (ht : j.database.transaction = none) :
    let t : Transaction := ⟨j.database.nextTransaction, level, readOnly⟩
    let d := { j.database.calling [.batch t.beginSql] with
      nextTransaction := j.database.nextTransaction + 1 }
    ∃ events, runFrom (begin level readOnly) j =
      match (Connection.batch t.beginSql j.database.connection).1 with
      | .ok () =>
        (.ok t, ⟨{ d with transaction := some t }, j.calls ++ [.batch t.beginSql], events⟩)
      | .error e => (.error e, ⟨d, j.calls ++ [.batch t.beginSql], events⟩) := by
  intro t d
  simp only [begin, callBatch, runFrom_bind, runFrom_requireOpen, ho, ht, Option.isSome_none,
    Bool.false_eq_true, if_false, runFrom_modifyDatabase, runFrom_call, runFrom_conclude]
  cases (Connection.batch t.beginSql j.database.connection).1 with
  | ok _ => exact ⟨_, rfl⟩
  | error e => exact ⟨j.events, by simp [d, t, calling, ConnectionCall.after, ht]⟩

variable (own offered) in
theorem effect_begin (level : IsolationLevel) (readOnly : Bool) (j : Journal κ) :
    let r := runFrom (some <$> begin level readOnly) j
    ∃ calls, r.2.calls = j.calls ++ calls ∧
      Effect own offered j.database (begunBy r.1) r.2.database calls := by
  intro r
  have hr : r = _ := runFrom_map some (begin level readOnly) j
  rw [hr]
  cases ho : j.database.openError? with
  | some e =>
    simp only [begin, runFrom_bind, runFrom_requireOpen, ho]
    exact effect_nothing j
  | none =>
    cases ht : j.database.transaction with
    | some t =>
      simp only [begin, runFrom_bind, runFrom_requireOpen, ho, ht, Option.isSome_some, if_true,
        runFrom_throw]
      exact effect_nothing j
    | none =>
      obtain ⟨events, h⟩ := runFrom_begin level readOnly ho ht
      have ho := openError?_eq_none_iff.1 ho
      rw [h]
      generalize htx : Transaction.mk j.database.nextTransaction level readOnly = t
      have hid : t.id = j.database.nextTransaction := by rw [← htx]
      refine ⟨[.batch t.beginSql], ?_⟩
      cases hs : (Connection.batch t.beginSql j.database.connection).1 with
      | ok _ => exact ⟨rfl, .begun t ho ht hid (by rw [ConnectionCall.succeeds, hs]; rfl)⟩
      | error e => exact ⟨rfl, .refused t ho ht (by rw [ConnectionCall.succeeds, hs]; rfl)⟩

/-- Every operation has an effect. -/
theorem Operation.effect_run (op : Operation κ) (d : Database κ) :
    Effect op.sendsText op.offered? d (begunBy (perform op.run d).1) (perform op.run d).2.database
      (perform op.run d).2.calls := by
  have of_leads {α : Type} {own : Bool} {offered : Option κ} {a : Action κ α}
      (ha : Leads own offered a) :
      let r := perform (ignoring a) d
      Effect own offered d (begunBy r.1) r.2.database r.2.calls := by
    intro r
    have hb : begunBy r.1 = none := begunBy_ignoring a ⟨d, [], []⟩
    obtain ⟨calls, hcalls, he⟩ := ha.ignoring ⟨d, [], []⟩
    have hcalls : r.2.calls = calls := hcalls
    rw [hb, hcalls]
    exact he
  cases op with
  | connectionString =>
    exact of_leads (silent_requireUsable.bind fun _ => Silent.pure _).leads
  | connectionState =>
    exact of_leads (silent_requireUsable.bind fun _ => Silent.pure _).leads
  | setConnection connection => exact of_leads (leads_setConnection connection)
  | openConnection => exact of_leads leads_openConnection
  | closeConnection => exact of_leads leads_closeConnection
  | dispose => exact of_leads leads_dispose
  | batch sql => exact of_leads (leads_batch sql)
  | begin level readOnly =>
    obtain ⟨calls, hcalls, he⟩ := effect_begin false none level readOnly ⟨d, [], []⟩
    have hcalls : (perform (Operation.begin level readOnly).run d).2.calls = calls := hcalls
    rw [hcalls]
    exact he
  | finish how => exact of_leads (leads_finish how)
  | savepoint action name => exact of_leads (leads_savepoint action name)
  | setCommandTimeout timeout => exact of_leads (leads_setCommandTimeout timeout)
  | createCommand text kind source transaction =>
    exact of_leads (silent_createCommand text kind source transaction).leads
  | createProcedureCommand p transaction =>
    exact of_leads (silent_createProcedureCommand p transaction).leads
  | executeCommand c cancel => exact of_leads (leads_executeCommand c cancel)
  | queryCommand c cancel => exact of_leads (leads_queryCommand c cancel)
  | execute sql source cancel =>
    exact of_leads ((silent_createCommand sql .text source none).bind_leads fun c =>
      leads_executeCommand c cancel)
  | query sql source cancel => exact of_leads (leads_query sql source cancel)
  | scalar sql source cancel target =>
    exact of_leads ((leads_query sql source cancel).bind_silent fun _ => silent_conclude _)
  | queryAs sql source cancel m =>
    exact of_leads ((leads_query sql source cancel).bind_silent fun _ => silent_conclude _)
  | openReader sql source =>
    exact of_leads ((leads_query sql source none).bind_silent fun _ => Silent.pure _)
  | queryOne sql source m =>
    exact of_leads ((leads_query sql source none).bind_silent fun _ => silent_conclude _)
  | queryOnly sql source m =>
    exact of_leads ((leads_query sql source none).bind_silent fun _ => silent_conclude _)
  | queryOptional sql source m =>
    exact of_leads ((leads_query sql source none).bind_silent fun _ => silent_conclude _)
  | callProcedure p =>
    exact of_leads ((silent_createProcedureCommand p none).bind_leads fun c =>
      (leads_queryCommand c none).bind_silent fun _ => Silent.pure _)
  | queryProcedure p m =>
    exact of_leads ((silent_createProcedureCommand p none).bind_leads fun c =>
      (leads_queryCommand c none).bind_silent fun _ => silent_conclude _)

end SqlAccess

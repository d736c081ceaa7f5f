import SqlAccess.Connection.Scripted
import SqlAccess.Proofs.Database.Refusal

/-!
# The slot of the active transaction

Four operations touch the slot, the others leave it alone (`Operation.keeps_transaction`). It is
filled by a `begin` whose statement succeeded and emptied by `commit` and `rollback` once their
statement is sent, and by closing and disposing; no transaction takes the place of another. The laws
for one operation, whatever comes of its calls, stand in `Operation.transaction_perform`.
-/

namespace SqlAccess

variable {κ α β γ : Type}

/-! ## What actions leave alone -/

/-- Whatever comes of the action, it leaves this part of the object as it is. -/
def Keeps (part : Database κ → γ) (a : Action κ α) : Prop :=
  ∀ j, part (runFrom a j).2.database = part j.database

theorem Silent.keeps {a : Action κ α} (h : Silent a) (part : Database κ → γ) : Keeps part a :=
  fun j => congrArg part (h j).1

section

variable {part : Database κ → γ}

theorem Keeps.bind {a : Action κ α} {f : α → Action κ β} (ha : Keeps part a)
    (hf : ∀ x, Keeps part (f x)) : Keeps part (a >>= f) := by
  intro j
  have hj := ha j
  rw [runFrom_bind]
  split
  · next x j' h =>
    rw [h] at hj
    exact (hf x j').trans hj
  · next e j' h =>
    rwa [h] at hj

theorem Keeps.ignoring {a : Action κ α} (ha : Keeps part a) : Keeps part (ignoring a) :=
  ha.bind fun _ => (Silent.pure none).keeps part

namespace Database

theorem keeps_modifyDatabase {f : Database κ → Database κ} (h : ∀ d, part (f d) = part d) :
    Keeps part (modifyDatabase f) := fun j => h j.database

variable (hpart : ∀ (d : Database κ) (connection : κ), part { d with connection } = part d)
include hpart

theorem keeps_call (c : ConnectionCall) (f : κ → α × κ) : Keeps part (call c f) :=
  fun j => hpart j.database _

variable [Connection κ]

theorem keeps_runCommand {use : CommandUse} {c : Command} {made : ConnectionCall}
    {f : κ → Pending α × κ} {winner : Pending α → Winner} :
    Keeps part (runCommand use c made f winner) := by
  have hrunnable : Silent (requireRunnable (κ := κ) c) := by
    refine silent_requireOpen.bind fun d => ?_
    split
    · exact Silent.throw _
    · exact Silent.pure ()
  refine (hrunnable.keeps part).bind fun _ => (keeps_call hpart made f).bind fun p => ?_
  intro j
  obtain ⟨rest, -, -, hd⟩ := settle_calls use c p (winner p) j
  rw [hd]
  exact hpart j.database _

end Database

end

/-! ## Operations -/

namespace Operation

open Database

/-- Whether the operation may change the slot. -/
def handlesTransaction : Operation κ → Bool
  | begin _ _ | finish _ | closeConnection | dispose => true
  | _ => false

variable [Connection κ] {op : Operation κ}

theorem keeps_transaction (h : op.handlesTransaction = false) :
    Keeps (·.transaction) op.run := by
  have hpart (d : Database κ) (connection : κ) :
      { d with connection }.transaction = d.transaction := rfl
  cases op with
  | begin level readOnly => cases h
  | finish how => cases h
  | closeConnection => cases h
  | dispose => cases h
  | connectionString | connectionState =>
    exact ((silent_requireUsable.bind fun _ => Silent.pure _).keeps _).ignoring
  | setConnection connection =>
    refine Keeps.ignoring ((silent_requireUsable.keeps _).bind fun d => ?_)
    split
    · exact ((Silent.throw _).keeps _).bind fun _ => keeps_modifyDatabase fun _ => rfl
    · exact keeps_modifyDatabase fun _ => rfl
  | openConnection =>
    exact Keeps.ignoring ((silent_requireUsable.keeps _).bind fun _ =>
      (keeps_call hpart _ _).bind fun _ => (silent_conclude _).keeps _)
  | batch sql =>
    exact Keeps.ignoring ((silent_requireOpen.keeps _).bind fun _ =>
      (keeps_call hpart _ _).bind fun _ => (silent_conclude _).keeps _)
  | savepoint action name =>
    exact Keeps.ignoring ((silent_requireOpen.keeps _).bind fun _ =>
      (silent_requireTransaction.keeps _).bind fun _ => ((silent_conclude _).keeps _).bind fun _ =>
      ((silent_log _).keeps _).bind fun _ => (keeps_call hpart _ _).bind fun _ =>
      (silent_conclude _).keeps _)
  | setCommandTimeout timeout =>
    refine Keeps.ignoring ?_
    rw [Database.setCommandTimeout]
    split
    · exact ((Silent.throw _).keeps _).bind fun _ => keeps_modifyDatabase fun _ => rfl
    · exact keeps_modifyDatabase fun _ => rfl
  | createCommand text kind source t =>
    exact ((silent_createCommand text kind source t).keeps _).ignoring
  | createProcedureCommand p t => exact ((silent_createProcedureCommand p t).keeps _).ignoring
  | executeCommand c cancel | queryCommand c cancel => exact (keeps_runCommand hpart).ignoring
  | execute sql source cancel | query sql source cancel =>
    exact Keeps.ignoring (((silent_createCommand _ _ _ _).keeps _).bind fun _ =>
      keeps_runCommand hpart)
  | scalar sql source cancel target | queryAs sql source cancel m
  | queryOne sql source m | queryOnly sql source m | queryOptional sql source m =>
    exact Keeps.ignoring ((((silent_createCommand _ _ _ _).keeps _).bind fun _ =>
      keeps_runCommand hpart).bind fun _ => (silent_conclude _).keeps _)
  | openReader sql source =>
    exact Keeps.ignoring ((((silent_createCommand _ _ _ _).keeps _).bind fun _ =>
      keeps_runCommand hpart).bind fun _ => (Silent.pure _).keeps _)
  | callProcedure p =>
    exact Keeps.ignoring (((silent_createProcedureCommand p none).keeps _).bind fun _ =>
      (keeps_runCommand hpart).bind fun _ => (Silent.pure _).keeps _)
  | queryProcedure p m =>
    exact Keeps.ignoring (((silent_createProcedureCommand p none).keeps _).bind fun _ =>
      (keeps_runCommand hpart).bind fun _ => (silent_conclude _).keeps _)

end Operation

/-! ## Beginning a transaction -/

/-- The slot and the counter of transactions after an effect: a transaction enters an empty slot
with the next number, or the slot stays as it is, or it is emptied. -/
theorem Database.Effect.transaction_cases [Connection κ] {own : Bool} {offered : Option κ}
    {d d' : Database κ} {b : Option Transaction} {calls : List ConnectionCall}
    (h : Effect own offered d b d' calls) :
    (∃ t, b = some t ∧ d.transaction = none ∧ d'.transaction = some t ∧ t.id = d.nextTransaction ∧
      d'.nextTransaction = d.nextTransaction + 1) ∨
    (b = none ∧ (d'.transaction = d.transaction ∨ d'.transaction = none) ∧
      d.nextTransaction ≤ d'.nextTransaction) := by
  cases h with
  | begun t ho ht hid hs => exact .inl ⟨t, rfl, ht, rfl, hid, rfl⟩
  | kept settings => exact .inr ⟨rfl, .inl rfl, Nat.le_refl _⟩
  | replaced connection hk hu ht => exact .inr ⟨rfl, .inl rfl, Nat.le_refl _⟩
  | connected hu => exact .inr ⟨rfl, .inl rfl, Nat.le_refl _⟩
  | left isDisposed hu => exact .inr ⟨rfl, .inr rfl, Nat.le_refl _⟩
  | refused t ho ht hs => exact .inr ⟨rfl, .inl rfl, Nat.le_succ _⟩
  | finished how t ho ht => exact .inr ⟨rfl, .inr rfl, Nat.le_refl _⟩
  | saved action name sql t ho ht hs => exact .inr ⟨rfl, .inl rfl, Nat.le_refl _⟩
  | sent c rest hown ho hc hr => exact .inr ⟨rfl, .inl rfl, Nat.le_refl _⟩

namespace Operation

open Database

variable [Connection κ] (op : Operation κ) (d : Database κ)

theorem begunBy_eq_some_iff {r : Except Error (Option Transaction)} {t : Transaction} :
    begunBy r = some t ↔ r = .ok (some t) := by
  cases r <;> simp [begunBy]

/-- Only `begin` gives a transaction. -/
theorem exists_begin_of_ok {t : Transaction} (h : (perform op.run d).1 = .ok (some t)) :
    ∃ level readOnly, op = .begin level readOnly := by
  have of_ignoring {α : Type} {a : Action κ α} {p : Prop}
      (h : (perform (ignoring a) d).1 = .ok (some t)) : p := by
    have hb : begunBy (perform (ignoring a) d).1 = none := begunBy_ignoring a ⟨d, [], []⟩
    rw [h] at hb
    cases hb
  cases op with
  | begin level readOnly => exact ⟨level, readOnly, rfl⟩
  | _ => exact of_ignoring h

/-- The slot is filled exactly by the transaction that is given. -/
theorem transaction_eq_some_iff (hd : d.transaction = none) (t : Transaction) :
    (perform op.run d).2.database.transaction = some t ↔ (perform op.run d).1 = .ok (some t) := by
  rw [← begunBy_eq_some_iff]
  rcases (op.effect_run d).transaction_cases with ⟨t', hb, -, ht, -⟩ | ⟨hb, ht | ht, -⟩
  · rw [hb, ht]
  · rw [hb, ht, hd]
  · rw [hb, ht]

/-- A `begin` that is not refused fails as its statement does. -/
theorem result_begin {level : IsolationLevel} {readOnly : Bool}
    (h : (begin level readOnly : Operation κ).refusal? d = none) :
    let t : Transaction := ⟨d.nextTransaction, level, readOnly⟩
    (perform (begin level readOnly).run d).1 =
      (Connection.batch t.beginSql d.connection).1.map fun _ => some t := by
  intro t
  obtain ⟨ho, ht⟩ := Option.or_eq_none_iff.1 h
  have ht : d.transaction = none := Error.when_isSome_eq_none_iff.1 ht
  obtain ⟨events, hr⟩ := runFrom_begin level readOnly (j := ⟨d, [], []⟩) ho ht
  show (runFrom (some <$> Database.begin level readOnly) ⟨d, [], []⟩).1 = _
  rw [runFrom_map, hr]
  cases (Connection.batch t.beginSql d.connection).1 <;> rfl

/-- A transaction is given exactly by a `begin` that is not refused and whose statement succeeds. -/
theorem gives_transaction_iff (t : Transaction) :
    (perform op.run d).1 = .ok (some t) ↔
      ∃ level readOnly, op = .begin level readOnly ∧ op.refusal? d = none ∧
        t = ⟨d.nextTransaction, level, readOnly⟩ ∧
        ConnectionCall.succeeds d.connection (.batch t.beginSql) = true := by
  constructor
  · intro h
    obtain ⟨level, readOnly, rfl⟩ := op.exists_begin_of_ok d h
    cases hr : (begin level readOnly : Operation κ).refusal? d with
    | some e =>
      rw [perform_of_refusal hr] at h
      cases h
    | none =>
      rw [result_begin d hr] at h
      cases hb : (Connection.batch (Transaction.beginSql ⟨d.nextTransaction, level, readOnly⟩)
          d.connection).1 with
      | error e =>
        rw [hb] at h
        cases h
      | ok _ =>
        rw [hb] at h
        cases h
        exact ⟨level, readOnly, rfl, rfl, rfl, congrArg Except.isOk hb⟩
  · rintro ⟨level, readOnly, rfl, hr, rfl, hs⟩
    rw [result_begin d hr]
    cases hb : (Connection.batch (Transaction.beginSql ⟨d.nextTransaction, level, readOnly⟩)
        d.connection).1 with
    | error e =>
      rw [ConnectionCall.succeeds, hb] at hs
      cases hs
    | ok _ => rfl

/-! ## Ending a transaction -/

/-- The operation ends the active transaction: it sends `COMMIT` or `ROLLBACK`, or it closes or
disposes of an object in use. -/
def Ends : Prop :=
  (∃ how, op = .finish how ∧ (perform op.run d).2.calls = [.batch how.sql]) ∨
    (op = .closeConnection ∨ op = .dispose) ∧ d.isDisposed = false

variable {op d} in
/-- A commit or rollback that is not refused sends its statement, empties the slot and fails as the
statement does. -/
theorem perform_finish {how : TransactionEnd} (h : (finish how : Operation κ).refusal? d = none) :
    let r := perform (finish how).run d
    r.1 = ((Connection.batch how.sql d.connection).1.map fun _ => none) ∧
      r.2.calls = [.batch how.sql] ∧ r.2.database.transaction = none := by
  intro r
  obtain ⟨ho, ht⟩ := Option.or_eq_none_iff.1 h
  obtain ⟨t, ht⟩ := Error.when_isNone_eq_none_iff.1 ht
  obtain ⟨events, hr⟩ := runFrom_finish how (j := ⟨d, [], []⟩) ho ht
  have hr : r = _ := perform_ignoring hr
  rw [hr]
  exact ⟨rfl, rfl, rfl⟩

variable {op d} in
/-- Closing and disposing of an object in use give up the active transaction, close the connection
whatever comes of the `ROLLBACK`, and fail as the closing does. -/
theorem perform_farewell (h : op = .closeConnection ∨ op = .dispose) (hu : d.isDisposed = false) :
    let r := perform op.run d
    r.1 = ((Connection.disconnect (d.calling d.pendingRollback).connection).1.map fun _ => none) ∧
      r.2.calls = d.pendingRollback ++ [.disconnect] ∧ r.2.database.transaction = none := by
  intro r
  rcases h with rfl | rfl
  · obtain ⟨events, hr⟩ := runFrom_closeConnection (j := ⟨d, [], []⟩)
      (usableError?_eq_none_iff.2 hu)
    have hr : r = _ := perform_ignoring hr
    rw [hr]
    exact ⟨rfl, rfl, rfl⟩
  · obtain ⟨events, hr⟩ := runFrom_dispose (j := ⟨d, [], []⟩) hu
    have hr : r = _ := perform_ignoring hr
    rw [hr]
    exact ⟨rfl, rfl, rfl⟩

/-- An object that is disposed of already is left as it is. -/
theorem perform_dispose_again {d : Database κ} (h : d.isDisposed = true) :
    perform (dispose : Operation κ).run d = (.ok none, ⟨d, [], []⟩) :=
  perform_ignoring (runFrom_dispose_again h)

variable {d} in
/-- The slot is emptied exactly where the operation ends the transaction. -/
theorem transaction_eq_none_iff {t : Transaction} (hd : d.transaction = some t) :
    (perform op.run d).2.database.transaction = none ↔ op.Ends d := by
  constructor
  · intro h
    have hhandles : op.handlesTransaction = true := by
      refine eq_true_of_ne_false fun hk => ?_
      have hkept := keeps_transaction hk ⟨d, [], []⟩
      exact absurd (hd.symm.trans (hkept.symm.trans h)) nofun
    cases hr : op.refusal? d with
    | some e =>
      rw [perform_of_refusal hr, hd] at h
      cases h
    | none =>
      cases op with
      | finish how => exact .inl ⟨how, rfl, (perform_finish hr).2.1⟩
      | closeConnection => exact .inr ⟨.inl rfl, usableError?_eq_none_iff.1 hr⟩
      | dispose =>
        cases hu : d.isDisposed with
        | false => exact .inr ⟨.inr rfl, hu⟩
        | true =>
          rw [perform_dispose_again hu, hd] at h
          cases h
      | begin level readOnly =>
        have ht := Error.when_eq_none_iff.1 (Option.or_eq_none_iff.1 hr).2
        rw [hd] at ht
        cases ht
      | _ => cases hhandles
  · rintro (⟨how, rfl, hc⟩ | ⟨hop, hu⟩)
    · cases hr : (finish how : Operation κ).refusal? d with
      | none => exact (perform_finish hr).2.2
      | some e =>
        rw [perform_of_refusal hr] at hc
        cases hc
    · exact (perform_farewell hop hu).2.2

/-! ## The laws of the slot -/

/-- An operation changes the slot and answers to refusals as follows, whatever comes of its calls:
* an empty slot is filled exactly by the transaction that the operation gives, and only a `begin`
  gives one, with the next number, where nothing is objected and its statement succeeds;
* a filled slot is emptied exactly where the operation ends the transaction, and never refilled;
* closing and disposing of an object in use send a `ROLLBACK` for an active transaction on an open
  connection, then close the connection even if that fails, and their result is that of closing;
* disposing a second time does nothing;
* a refused operation sends nothing, logs nothing and changes nothing;
* an operation that is not refused succeeds or sends something. -/
theorem transaction_perform (op : Operation κ) (d : Database κ) :
    let r := perform op.run d
    (d.transaction = none → ∀ t,
      (r.2.database.transaction = some t ↔ r.1 = .ok (some t)) ∧
      (r.1 = .ok (some t) ↔
        ∃ level readOnly, op = .begin level readOnly ∧ op.refusal? d = none ∧
          t = ⟨d.nextTransaction, level, readOnly⟩ ∧
          ConnectionCall.succeeds d.connection (.batch t.beginSql) = true)) ∧
    (∀ t, d.transaction = some t →
      (r.2.database.transaction = none ↔ op.Ends d) ∧
      ∀ t', r.2.database.transaction = some t' → t' = t) ∧
    (op = .closeConnection ∨ op = .dispose → d.isDisposed = false →
      r.2.calls = d.pendingRollback ++ [.disconnect] ∧
      r.1 = (Connection.disconnect (d.calling d.pendingRollback).connection).1.map fun _ => none) ∧
    (op = .dispose → d.isDisposed = true → r = (.ok none, ⟨d, [], []⟩)) ∧
    (∀ e, op.refusal? d = some e → r = (.error e, ⟨d, [], []⟩)) ∧
    (op.refusal? d = none → r.1 = .ok none ∨ r.2.calls ≠ []) := by
  intro r
  refine ⟨fun hd t => ⟨?_, ?_⟩, fun t hd => ⟨?_, fun t' ht' => ?_⟩, fun hop hu => ?_, ?_, ?_, ?_⟩
  · exact op.transaction_eq_some_iff d hd t
  · exact op.gives_transaction_iff d t
  · exact op.transaction_eq_none_iff hd
  · rcases (op.effect_run d).transaction_cases with ⟨-, -, hn, -⟩ | ⟨-, hs | hn, -⟩
    · cases hn.symm.trans hd
    · cases (ht'.symm.trans hs).trans hd
      rfl
    · cases hn.symm.trans ht'
  · obtain ⟨hr, hc, -⟩ := perform_farewell hop hu
    exact ⟨hc, hr⟩
  · rintro rfl hu
    exact perform_dispose_again hu
  · exact fun e => perform_of_refusal
  · exact isOk_or_calls

/-- A `ROLLBACK` that fails does not keep the connection open. -/
example :
    let k : ScriptedConnection := ⟨"", .open, [], [some .cancelled], false⟩
    let r := perform closeConnection.run ⟨k, some ⟨0, .serializable, true⟩, false, .default, 1⟩
    r.1 = .ok none ∧ r.2.calls = [.batch "ROLLBACK", .disconnect] ∧
      r.2.database.connection.state = .closed ∧ r.2.database.transaction = none := by
  exact ⟨rfl, rfl, rfl, rfl⟩

end Operation

end SqlAccess

import SqlAccess.Connection.Scripted
import SqlAccess.Proofs.Database.Slot

/-!
# Lifetimes of objects

What can happen to an object from its making on (`Occurrence`, `Database.run`) and the states in
which it can be (`Database.Reachable`). The number of an active transaction is given out, and an
object that is disposed of has no transaction (`Database.Sound`). Two laws of whole runs follow: a
command runs in its own transaction only and never once that is over
(`Database.Reachable.command_in_own_transaction`), and disposal is final
(`Database.Reachable.disposed_for_good`).
-/

namespace SqlAccess

variable {κ : Type}

/-- The number as a 64-bit word, from a counter that starts at one. -/
def Transaction.word (t : Transaction) : UInt64 := .ofNat (t.id + 1)

/-- Numbers below the size of a word stay apart as words. -/
theorem Transaction.word_ne {t t' : Transaction} (h : t.id < t'.id)
    (ht : t'.id < UInt64.size) : t'.word ≠ t.word := by
  intro hw
  have hw : (t'.id + 1) % UInt64.size = (t.id + 1) % UInt64.size :=
    congrArg UInt64.toNat hw
  unfold UInt64.size at ht hw
  omega

/-- The command that a call runs. -/
def ConnectionCall.command? : ConnectionCall → Option Command
  | .execute c | .query c => some c
  | _ => none

/-- What can happen to an object: an operation, or something beside it, where the connection
changes by itself or through others who hold it and other objects take numbers for transactions. -/
inductive Occurrence (κ : Type)
  | operate (op : Operation κ)
  | beside (connection : κ) (numbers : Nat)

namespace Database

variable [Connection κ] {d d' : Database κ}

def step (d : Database κ) : Occurrence κ → Database κ
  | .operate op => (perform op.run d).2.database
  | .beside connection numbers =>
    { d with connection, nextTransaction := d.nextTransaction + numbers }

def run (d : Database κ) (os : List (Occurrence κ)) : Database κ :=
  os.foldl step d

/-- The states in which an object can be. -/
inductive Reachable : Database κ → Prop
  | made {connection : κ} {settings : Settings} {d : Database κ}
      (h : ofSettings connection settings = .ok d) : Reachable d
  | step {d : Database κ} (h : Reachable d) (o : Occurrence κ) : Reachable (d.step o)

theorem Reachable.run (h : d.Reachable) (os : List (Occurrence κ)) : (d.run os).Reachable := by
  induction os generalizing d with
  | nil => exact h
  | cons o os ih => exact ih (h.step o)

theorem reachable_ofConnection (connection : κ) : (ofConnection connection).Reachable :=
  @Reachable.made _ _ connection .default _ rfl

/-! ## Effects on commands and on disposed objects -/

section

variable {own : Bool} {offered : Option κ} {b : Option Transaction} {calls : List ConnectionCall}

/-- A command is sent on an open connection, in the transaction to which it belongs. -/
theorem Effect.command_within (h : Effect own offered d b d' calls) {call : ConnectionCall}
    (hc : call ∈ calls) {c : Command} (hcommand : call.command? = some c) :
    d.isOpen = true ∧ c.transaction = d.transaction := by
  have hbatch {sql : String} (hc : call ∈ [.batch sql]) : False := by
    cases List.mem_singleton.1 hc
    cases hcommand
  cases h with
  | kept settings => cases hc
  | replaced connection hk hu ht => cases hc
  | connected hu =>
    cases List.mem_singleton.1 hc
    cases hcommand
  | left isDisposed hu =>
    rcases List.mem_append.1 hc with hc | hc
    · rw [pendingRollback] at hc
      split at hc
      · exact (hbatch hc).elim
      · cases hc
    · cases List.mem_singleton.1 hc
      cases hcommand
  | refused t ho ht hs => exact (hbatch hc).elim
  | begun t ho ht hid hs => exact (hbatch hc).elim
  | finished how t ho ht => exact (hbatch hc).elim
  | saved action name sql t ho ht hs => exact (hbatch hc).elim
  | sent made rest hown ho hmade hr =>
    refine ⟨ho, ?_⟩
    rcases List.mem_cons.1 hc with rfl | hc
    · cases call with
      | execute command =>
        cases hcommand
        exact hmade
      | query command =>
        cases hcommand
        exact hmade
      | _ => cases hcommand
    · rcases hr with rfl | rfl
      · cases hc
      · cases List.mem_singleton.1 hc
        cases hcommand

/-- Of an object that is disposed of, nothing but the settings changes. -/
theorem Effect.of_disposed (h : Effect own offered d b d' calls) (hd : d.isDisposed = true) :
    calls = [] ∧ ∃ settings, d' = { d with settings } := by
  have hused {p : Prop} (hu : d.isDisposed = false) : p := by
    cases hd.symm.trans hu
  have hopen {p : Prop} (ho : d.isOpen = true) : p := by
    simp [isOpen, hd] at ho
  cases h with
  | kept settings => exact ⟨rfl, settings, rfl⟩
  | replaced connection hk hu ht => exact hused hu
  | connected hu => exact hused hu
  | left isDisposed hu => exact hused hu
  | refused t ho ht hs => exact hopen ho
  | begun t ho ht hid hs => exact hopen ho
  | finished how t ho ht => exact hopen ho
  | saved action name sql t ho ht hs => exact hopen ho
  | sent c rest hown ho hc hr => exact hopen ho

/-- An operation that disposes of the object empties the slot. -/
theorem Effect.transaction_of_disposal (h : Effect own offered d b d' calls)
    (hu : d.isDisposed = false) (hd : d'.isDisposed = true) : d'.transaction = none := by
  cases h with
  | left isDisposed => rfl
  | _ => cases hu.symm.trans hd

end

/-- Whatever happens, an object that is disposed of stays so and keeps its slot. -/
theorem step_of_disposed (hd : d.isDisposed = true) (o : Occurrence κ) :
    (d.step o).isDisposed = true ∧ (d.step o).transaction = d.transaction := by
  cases o with
  | operate op =>
    obtain ⟨-, settings, hs⟩ := (op.effect_run d).of_disposed hd
    rw [step, hs]
    exact ⟨hd, rfl⟩
  | beside connection numbers => exact ⟨hd, rfl⟩

theorem run_of_disposed (hd : d.isDisposed = true) (os : List (Occurrence κ)) :
    (d.run os).isDisposed = true ∧ (d.run os).transaction = d.transaction := by
  induction os generalizing d with
  | nil => exact ⟨hd, rfl⟩
  | cons o os ih =>
    obtain ⟨hdisposed, hkept⟩ := step_of_disposed hd o
    obtain ⟨hrun, htx⟩ := ih hdisposed
    exact ⟨hrun, htx.trans hkept⟩

/-! ## The invariant -/

/-- The number of an active transaction is given out, and an object that is disposed of has no
active transaction. -/
structure Sound (d : Database κ) : Prop where
  issued : ∀ t, d.transaction = some t → t.id < d.nextTransaction
  vacant : d.isDisposed = true → d.transaction = none

/-- The slot and the counter after any occurrence, as after an effect. -/
theorem step_transaction_cases (d : Database κ) (o : Occurrence κ) :
    (∃ t, d.transaction = none ∧ (d.step o).transaction = some t ∧ t.id = d.nextTransaction ∧
      (d.step o).nextTransaction = d.nextTransaction + 1) ∨
    (((d.step o).transaction = d.transaction ∨ (d.step o).transaction = none) ∧
      d.nextTransaction ≤ (d.step o).nextTransaction) := by
  cases o with
  | operate op =>
    rcases (op.effect_run d).transaction_cases with ⟨t, -, h⟩ | ⟨-, h⟩
    · exact .inl ⟨t, h⟩
    · exact .inr h
  | beside connection numbers => exact .inr ⟨.inl rfl, Nat.le_add_right _ _⟩

theorem Sound.step (h : d.Sound) (o : Occurrence κ) : (d.step o).Sound where
  issued t ht := by
    rcases d.step_transaction_cases o with ⟨t', -, ht', hid, hn⟩ | ⟨hs | hs, hn⟩
    · obtain rfl : t' = t := Option.some.inj (ht'.symm.trans ht)
      omega
    · have := h.issued t (hs.symm.trans ht)
      omega
    · cases hs.symm.trans ht
  vacant hd := by
    cases hu : d.isDisposed with
    | true => exact (step_of_disposed hu o).2.trans (h.vacant hu)
    | false =>
      cases o with
      | operate op => exact (op.effect_run d).transaction_of_disposal hu hd
      | beside connection numbers => cases hu.symm.trans hd

theorem Reachable.sound (h : d.Reachable) : d.Sound := by
  induction h with
  | @made connection settings d h =>
    have hd : d.transaction = none := by
      rw [ofSettings] at h
      cases hs : settings.validate with
      | error e =>
        rw [hs] at h
        cases h
      | ok _ =>
        rw [hs] at h
        cases h
        rfl
    exact ⟨fun t ht => absurd (hd.symm.trans ht) nofun, fun _ => hd⟩
  | step h o ih => exact ih.step o

/-! ## Transactions that are over -/

/-- The transaction is over: its number is used up, and an active one has a later number. -/
structure Past (d : Database κ) (t : Transaction) : Prop where
  used : t.id < d.nextTransaction
  later : ∀ t', d.transaction = some t' → t.id < t'.id

variable {t : Transaction}

theorem Past.step (h : d.Past t) (o : Occurrence κ) : (d.step o).Past t := by
  have hused := h.used
  rcases d.step_transaction_cases o with ⟨t', -, ht', hid, hn⟩ | ⟨hs, hn⟩
  · refine ⟨by omega, fun t'' ht'' => ?_⟩
    obtain rfl : t' = t'' := Option.some.inj (ht'.symm.trans ht'')
    omega
  · refine ⟨by omega, fun t' ht' => ?_⟩
    rcases hs with hs | hs
    · exact h.later t' (hs.symm.trans ht')
    · cases hs.symm.trans ht'

theorem Past.run (h : d.Past t) (os : List (Occurrence κ)) : (d.run os).Past t := by
  induction os generalizing d with
  | nil => exact h
  | cons o os ih => exact ih (h.step o)

/-- An active transaction stays active or is over. -/
theorem Sound.active_or_past (h : d.Sound) (ht : d.transaction = some t)
    (os : List (Occurrence κ)) : (d.run os).transaction = some t ∨ (d.run os).Past t := by
  induction os generalizing d with
  | nil => exact .inl ht
  | cons o os ih =>
    have hused := h.issued t ht
    rcases d.step_transaction_cases o with ⟨t', hnone, -⟩ | ⟨hs | hs, hn⟩
    · cases hnone.symm.trans ht
    · exact ih (h.step o) (hs.trans ht)
    · have hpast : (d.step o).Past t :=
        ⟨by omega, fun t' ht' => absurd (hs.symm.trans ht') nofun⟩
      exact .inr (hpast.run os)

/-! ## Commands and their transactions -/

omit [Connection κ] in
theorem mem_calls_ignoring {α : Type} {a : Action κ α} {made : ConnectionCall}
    {rest : List ConnectionCall} (h : (runFrom a ⟨d, [], []⟩).2.calls = [] ++ made :: rest) :
    made ∈ (perform (ignoring a) d).2.calls := by
  rw [journal_ignoring, h]
  exact List.mem_cons_self

/-- Commands run in their own transaction only:
* a command reaches the connection only if the object is in use, the connection open and the
  command's transaction the active one, or neither is there;
* a command that is run reaches the connection if all this holds;
* commands that are made belong to the transaction that they are given, else to the active one;
* once a transaction is over, no command reaches the connection with the number of it, whatever
  happens next, as long as the counter has not run through all words of 64 bits. -/
theorem Reachable.command_in_own_transaction (h : d.Reachable) :
    (∀ (op : Operation κ) (call : ConnectionCall) (c : Command),
      call ∈ (perform op.run d).2.calls → call.command? = some c →
      d.isDisposed = false ∧ (Connection.state d.connection).isOpen = true ∧
        c.transaction = d.transaction) ∧
    (∀ (c : Command) (cancel : Option Duration), d.isDisposed = false →
      (Connection.state d.connection).isOpen = true → c.transaction = d.transaction →
      .execute c ∈ (perform (Operation.executeCommand c cancel).run d).2.calls ∧
        .query c ∈ (perform (Operation.queryCommand c cancel).run d).2.calls) ∧
    (∀ text kind source t c, (perform (createCommand text kind source t) d).1 = .ok c →
      c.transaction = t.or d.transaction) ∧
    (∀ p t c, (perform (createProcedureCommand p t) d).1 = .ok c →
      c.transaction = t.or d.transaction) ∧
    ∀ t os os', d.transaction = some t → (d.run os).transaction ≠ some t →
      let w := (d.run os).run os'
      w.nextTransaction ≤ UInt64.size →
      ∀ (op : Operation κ) (call : ConnectionCall) (c : Command) (t' : Transaction),
        call ∈ (perform op.run w).2.calls → call.command? = some c → c.transaction = some t' →
        t'.word ≠ t.word := by
  refine ⟨?_, ?_, ?_, ?_, ?_⟩
  · intro op call c hcall hc
    obtain ⟨ho, ht⟩ := (op.effect_run d).command_within hcall hc
    obtain ⟨hu, ho⟩ : d.isDisposed = false ∧ (Connection.state d.connection).isOpen = true := by
      simpa [isOpen] using ho
    exact ⟨hu, ho, ht⟩
  · intro c cancel hu ho ht
    have hrunning : d.runningError? c.transaction = none :=
      runningError?_eq_none_iff.2 ⟨by simp [isOpen, hu, ho], ht⟩
    refine ⟨?_, ?_⟩
    · obtain ⟨rest, hcalls⟩ := sends_runCommand hrunning [] []
      exact mem_calls_ignoring hcalls
    · obtain ⟨rest, hcalls⟩ := sends_runCommand hrunning [] []
      exact mem_calls_ignoring hcalls
  · exact fun _ _ source _ _ => transaction_createCommand source
  · intro p t c hc
    rw [createProcedureCommand_eq] at hc
    exact transaction_createCommand _ hc
  · intro t os os' ht hover w hw op call c t' hcall hc ht'
    -- what is active in `w` began after `t` was over, and its number is given out
    have hpast : w.Past t := by
      rcases h.sound.active_or_past ht os with hs | hp
      · exact absurd hs hover
      · exact hp.run os'
    have hactive : w.transaction = some t' :=
      ((op.effect_run w).command_within hcall hc).2.symm.trans ht'
    have hissued : t'.id < w.nextTransaction := ((h.run os).run os').sound.issued t' hactive
    exact Transaction.word_ne (hpast.later t' hactive) (by omega)

/-- A second transaction of the same kind does not let through what belongs to the first. -/
theorem Reachable.command_in_own_transaction_same_kind :
    let begin : Occurrence ScriptedConnection := .operate (.begin .readCommitted false)
    let d := (ofConnection ⟨"", .closed, [], [], false⟩).run [.operate .openConnection, begin]
    let w := d.run [.operate (.finish .commit), begin]
    d.transaction = some ⟨0, .readCommitted, false⟩ ∧
    w.transaction = some ⟨1, .readCommitted, false⟩ ∧
    ∀ (op : Operation ScriptedConnection) (c : Command) (t' : Transaction),
      .query c ∈ (perform op.run w).2.calls → c.transaction = some t' →
      t'.word ≠ Transaction.word ⟨0, .readCommitted, false⟩ := by
  intro begin d w
  have hd : d.transaction = some ⟨0, .readCommitted, false⟩ := by decide +kernel
  have hw : w.transaction = some ⟨1, .readCommitted, false⟩ := by decide +kernel
  refine ⟨hd, hw, fun op c t' hcall ht' => ?_⟩
  have hreachable : d.Reachable := (reachable_ofConnection _).run _
  have hover : (d.run [.operate (.finish .commit), begin]).transaction ≠
      some ⟨0, .readCommitted, false⟩ := by
    rw [hw]
    decide
  exact hreachable.command_in_own_transaction.2.2.2.2 _ _ [] hd hover (by decide +kernel) op _ c t'
    hcall rfl ht'

/-! ## Disposal -/

/-- Once the object is disposed of, every operation is refused that looks at the object. -/
theorem refusal?_of_disposed (hd : d.isDisposed = true) {op : Operation κ} (hop : op ≠ .dispose)
    (hset : ∀ timeout, op ≠ .setCommandTimeout timeout) : op.refusal? d = some .disposed := by
  cases op with
  | dispose => exact absurd rfl hop
  | setCommandTimeout timeout => exact absurd rfl (hset timeout)
  | _ =>
    simp [Operation.refusal?, makingError?, runningError?, openError?, usableError?, hd]

/-- After disposing, whatever it gave and whatever happens then, the object stays disposed of and
without a transaction, and no operation makes a call. Disposing again succeeds, and every other
operation fails for that reason, the setting of the command timeout excepted. -/
theorem Reachable.disposed_for_good (h : d.Reachable) (os : List (Occurrence κ)) :
    let w := (d.step (.operate .dispose)).run os
    w.isDisposed = true ∧ w.transaction = none ∧
    perform heldConnection w = (.error .disposed, ⟨w, [], []⟩) ∧
    ∀ op : Operation κ,
      (perform op.run w).2.calls = [] ∧ (perform op.run w).2.database.transaction = none ∧
      (op = .dispose → (perform op.run w).1 = .ok none) ∧
      (op ≠ .dispose → (∀ timeout, op ≠ .setCommandTimeout timeout) →
        perform op.run w = (.error .disposed, ⟨w, [], []⟩)) := by
  intro w
  have hfirst : (d.step (.operate .dispose)).isDisposed = true := by
    cases hu : d.isDisposed with
    | true => exact (step_of_disposed hu _).1
    | false =>
      obtain ⟨events, hr⟩ := runFrom_dispose (j := ⟨d, [], []⟩) hu
      have hr : perform (Operation.dispose (κ := κ)).run d = _ := perform_ignoring hr
      rw [Database.step, hr]
  have hw : w.isDisposed = true := (run_of_disposed hfirst os).1
  have hsound : w.Sound := ((h.step _).run os).sound
  refine ⟨hw, hsound.vacant hw, ?_, fun op => ⟨?_, ?_, ?_, ?_⟩⟩
  · have hu : w.usableError? = some .disposed := by simp [usableError?, hw]
    exact (refuses_requireUsable hu).bind [] []
  · exact ((op.effect_run w).of_disposed hw).1
  · obtain ⟨-, settings, hs⟩ := (op.effect_run w).of_disposed hw
    rw [hs]
    exact hsound.vacant hw
  · rintro rfl
    rw [Operation.perform_dispose_again hw]
  · exact fun hop hset => Operation.perform_of_refusal (refusal?_of_disposed hw hop hset)

/-- An object on which a transaction is active is disposed of, and its connection is opened again by
another of its users. -/
theorem Reachable.disposed_for_good_connection_in_use :
    let k : ScriptedConnection := ⟨"", .open, [], [], false⟩
    let d := (ofConnection k).run [.operate (.begin .readCommitted false)]
    let w := (d.step (.operate .dispose)).run [.beside k 1]
    d.transaction.isSome = true ∧ (Connection.state w.connection).isOpen = true ∧
    (perform (Operation.begin .readCommitted false).run w).1 = .error .disposed ∧
    (perform (Operation.batch "DELETE FROM t").run w).2.calls = [] := by
  intro k d w
  have hreachable : d.Reachable := (reachable_ofConnection k).run _
  obtain ⟨-, -, -, hops⟩ := hreachable.disposed_for_good [.beside k 1]
  refine ⟨by decide +kernel, rfl, ?_, (hops _).1⟩
  rw [(hops (.begin .readCommitted false)).2.2.2 nofun nofun]

end Database

end SqlAccess

import SqlAccess.Proofs.Database.Session

/-!
# Transactions and sessions

An active transaction on an open connection ought to be open in the session at hand: its `BEGIN`
succeeded there and nothing has ended it since (`World.Bracketed`). Every run stays so exactly as
long as no connection that has broken down is opened again while a transaction is active, and then
everything sent in a transaction goes to the session of its `BEGIN` (`World.bracketed_iff`).
-/

namespace SqlAccess

/-- What is sure of the calls that end a transaction: connecting, giving up the running statement
and savepoints do not. -/
structure EndsTransaction (ends : ConnectionCall → Bool) : Prop where
  connect : ends .connect = false
  cancel : ends .cancel = false
  savepoint : ∀ (action : SavepointAction) (name sql : String), action.sql name = .ok sql →
    ends (.batch sql) = false

/-- The statements by which an object itself ends transactions. -/
def ConnectionCall.isFinish : ConnectionCall → Bool
  | .batch sql => sql == Transaction.commitSql || sql == Transaction.rollbackSql
  | _ => false

theorem endsTransaction_isFinish : EndsTransaction ConnectionCall.isFinish where
  connect := rfl
  cancel := rfl
  savepoint action name sql h := by
    -- the keyword of a savepoint ends in a space, which `COMMIT` and `ROLLBACK` do not have
    have hspace : ' ' ∈ sql.toList := by
      rw [SavepointAction.sql] at h
      split at h
      · cases h
        cases action <;> simp [SavepointAction.keyword]
      · cases h
    have hne (how : TransactionEnd) : sql ≠ how.sql := by
      rintro rfl
      cases how <;> revert hspace <;> decide
    exact Bool.or_eq_false_iff.2 ⟨beq_eq_false_iff_ne.2 (hne .commit),
      beq_eq_false_iff_ne.2 (hne .rollback)⟩

variable {κ : Type}

namespace World

/-- The transaction is open in session `s`: its `BEGIN` succeeded there, and all that came after
was in this session too and did not end the transaction. -/
def HasOpen (ends : ConnectionCall → Bool) (w : World κ) (t : Transaction) (s : Nat) : Prop :=
  ∃ i, (t, i) ∈ w.begun ∧ w.history[i]? = some ⟨s, .batch t.beginSql, true⟩ ∧
    ∀ x ∈ w.history.drop (i + 1), x.session = s ∧ ends x.call = false

/-- The history of a run: no call is in a later session than the one at hand, and every
transaction has its place. -/
structure Regular (w : World κ) : Prop where
  sessions : ∀ x ∈ w.history, x.session ≤ w.session
  places : ∀ p ∈ w.begun, p.2 < w.history.length

theorem regular_start (d : Database κ) : (start d).Regular :=
  ⟨nofun, nofun⟩

/-- Calls of the session that do not end the transaction leave it open. -/
theorem HasOpen.extend {ends : ConnectionCall → Bool} {w w' : World κ} {t : Transaction} {s : Nat}
    {new : List Exchange} (hw : w.Regular) (h : w.HasOpen ends t s)
    (hb : ∀ p ∈ w.begun, p ∈ w'.begun)
    (hh : w'.history = w.history ++ new) (hnew : ∀ x ∈ new, x.session = s ∧ ends x.call = false) :
    w'.HasOpen ends t s := by
  obtain ⟨i, hi, hget, hrest⟩ := h
  have hlt : i < w.history.length := hw.places _ hi
  refine ⟨i, hb _ hi, ?_, ?_⟩
  · rw [hh, List.getElem?_append_left hlt, hget]
  · intro x hx
    rw [hh, List.drop_append_of_le_length hlt] at hx
    rcases List.mem_append.1 hx with hx | hx
    · exact hrest x hx
    · exact hnew x hx

variable [Connection κ]

/-- If a transaction is active while the connection is open, it is open in the session at hand. -/
def Bracketed (ends : ConnectionCall → Bool) (w : World κ) : Prop :=
  ∀ t, w.database.transaction = some t → w.isOpen = true → w.HasOpen ends t w.session

/-- The next event opens the connection while a transaction is active. -/
def Reopens (w : World κ) (e : Event κ) : Prop :=
  w.database.transaction.isSome = true ∧ w.isOpen = false ∧ (w.step e).isOpen = true

/-- No statement of the caller ends a transaction. -/
def CallerQuiet (ends : ConnectionCall → Bool) (w : World κ) : Event κ → Prop
  | .operate op => op.sendsText = true →
    ∀ c ∈ (w.perform op).2.calls, c.isStatement = true → ends c = false
  | .breakDown _ => True

instance (w : World κ) (e : Event κ) : Decidable (w.Reopens e) :=
  inferInstanceAs (Decidable (_ ∧ _ ∧ _))

instance (ends : ConnectionCall → Bool) (w : World κ) (e : Event κ) :
    Decidable (w.CallerQuiet ends e) :=
  match e with
  | .operate op =>
    inferInstanceAs (Decidable (op.sendsText = true →
      ∀ c ∈ (w.perform op).2.calls, c.isStatement = true → ends c = false))
  | .breakDown _ => isTrue trivial

/-- Statements sent while a transaction is active go to the session in which it is open, commands
are sent in their own transaction only, and the object's own statements in an active transaction
or to begin one. -/
def SendsWithin (ends : ConnectionCall → Bool) (w : World κ) (e : Event κ) : Prop :=
  ∀ x ∈ (w.step e).history.drop w.history.length,
    (∀ t, w.database.transaction = some t → x.call.isStatement = true →
      w.HasOpen ends t x.session) ∧
    (∀ t, x.call.handle? = some t → w.database.transaction = some t) ∧
    ∀ op sql, e = .operate op → op.sendsText = false → x.call = .batch sql →
      w.database.transaction.isSome = true ∨ ∃ t : Transaction, sql = t.beginSql

/-! ## What an event does to the history -/

variable [SessionLaws κ] {w : World κ} {ends : ConnectionCall → Bool}

/-- An operation adds its calls to the history, in the session at hand. -/
theorem history_operate (w : World κ) (op : Operation κ) :
    let w' := w.step (.operate op)
    w.session ≤ w'.session ∧ ∃ new, w'.history = w.history ++ new ∧
      new.map (·.call) = (w.perform op).2.calls ∧ (∀ x ∈ new, x.session = w.session) ∧
      ((begunBy (w.perform op).1).isSome = true → new ≠ []) := by
  intro w'
  rcases (w.effect_perform op).connection_cases with
    ⟨hk, -, hb, hc⟩ | ⟨hk, -, hb, hc⟩ | ⟨hc, hk, hb⟩
  · obtain ⟨k, -, hk⟩ := Option.map_eq_some_iff.1 hk
    have hconn : w'.database.connection = ⟨k, w.session + 1, w.history⟩ := hk.symm
    refine ⟨?_, [], ?_, hc.symm, nofun, by simp [hb]⟩
    · rw [session, session, hconn]
      exact Nat.le_succ _
    · rw [history, hconn, List.append_nil]
  · have hconn : w'.database.connection = w.database.connection.record .connect := hk
    have hmade : w'.history = w.history ++ [⟨w.session, .connect, ConnectionCall.succeeds
        w.database.connection.inner .connect⟩] := by
      rw [history, hconn]
      rfl
    refine ⟨?_, _, hmade, hc.symm, by simp, by simp⟩
    rw [session, session, hconn]
    exact w.database.connection.session_le_record .connect
  · have hconn : w'.database.connection = _ := hk
    obtain ⟨hs, ⟨new, hnew, hcalls, hin⟩, -⟩ := Tracked.foldl_record hc w.database.connection
    have hsame : w'.session = w.session := by rw [session, hconn, hs, session]
    refine ⟨Nat.le_of_eq hsame.symm, new, ?_, hcalls, hin, ?_⟩
    · rw [history, hconn, hnew]
      rfl
    · rintro h rfl
      exact hb h hcalls.symm

theorem Regular.step (hw : w.Regular) (e : Event κ) : (w.step e).Regular := by
  cases e with
  | breakDown connection =>
    rw [World.step]
    split
    · exact ⟨hw.sessions, hw.places⟩
    · exact hw
  | operate op =>
    obtain ⟨hle, new, hnew, -, hin, hb⟩ := history_operate w op
    refine ⟨?_, ?_⟩
    · intro x hx
      rw [hnew] at hx
      rcases List.mem_append.1 hx with hx | hx
      · exact Nat.le_trans (hw.sessions x hx) hle
      · rw [hin x hx]
        exact hle
    · intro p hp
      rw [hnew, List.length_append]
      rcases List.mem_append.1 hp with hp | hp
      · have := hw.places p hp
        omega
      · obtain ⟨t, ht, rfl⟩ :
            ∃ t, begunBy (w.perform op).1 = some t ∧ (t, w.history.length) = p := by
          simpa using hp
        have := List.length_pos_iff.2 (hb (by rw [ht]; rfl))
        show w.history.length < _
        omega

/-! ## What an event does to the bracket -/

/-- Where no call connects, an open connection was open before. -/
theorem isOpen_of_calls {calls : List ConnectionCall} (hc : .connect ∉ calls) {w' : World κ}
    (hk : w'.database.connection = calls.foldl ConnectionCall.after w.database.connection)
    (ho : w'.isOpen = true) : w.isOpen = true := by
  obtain ⟨-, -, hopen⟩ := Tracked.foldl_record hc w.database.connection
  rw [isOpen, hk] at ho
  exact hopen ho

/-- Calls that neither connect nor end the transaction keep the bracket. -/
theorem Bracketed.of_calls (calls : List ConnectionCall) {w' : World κ} (hw : w.Regular)
    (hb : w.Bracketed ends) (hc : .connect ∉ calls) (hends : ∀ c ∈ calls, ends c = false)
    (hk : w'.database.connection = calls.foldl ConnectionCall.after w.database.connection)
    (ht : w'.database.transaction = w.database.transaction)
    (hbegun : ∀ p ∈ w.begun, p ∈ w'.begun) : w'.Bracketed ends := by
  intro t htx ho
  have hopen := isOpen_of_calls hc hk ho
  obtain ⟨hs, ⟨new, hnew, hcalls, hin⟩, -⟩ := Tracked.foldl_record hc w.database.connection
  rw [ht] at htx
  have hsession : w'.session = w.session := by rw [session, hk, hs, session]
  rw [hsession]
  refine (hb t htx hopen).extend hw hbegun (by rw [history, hk, hnew, history]) fun x hx => ?_
  refine ⟨hin x hx, hends x.call ?_⟩
  rw [← hcalls]
  exact List.mem_map_of_mem hx

/-- An operation keeps the bracket unless it opens the connection in an active transaction. -/
theorem Bracketed.of_effect {own : Bool} {offered : Option (Tracked κ)} {b : Option Transaction}
    {d' : Database (Tracked κ)} {calls : List ConnectionCall} (hends : EndsTransaction ends)
    (hw : w.Regular) (hb : w.Bracketed ends)
    (he : Database.Effect own offered w.database b d' calls)
    (hq : own = true → ∀ c ∈ calls, c.isStatement = true → ends c = false)
    (hno : w.database.transaction.isSome = true → w.isOpen = false →
      (Connection.state d'.connection).isOpen = false) :
    Bracketed ends ⟨d', w.begun ++ (b.map fun t => (t, w.history.length)).toList⟩ := by
  have hbegun : ∀ p ∈ w.begun, p ∈ w.begun ++ [] := fun p hp => List.mem_append_left _ hp
  cases he with
  | kept settings => exact of_calls [] hw hb (by simp) (by simp) rfl rfl hbegun
  | replaced connection hk hu ht =>
    intro t htx ho
    cases ht.symm.trans htx
  | connected hu =>
    intro t htx ho
    have hopen : w.isOpen = true := by
      cases hw : w.isOpen with
      | true => rfl
      | false => cases (hno (Option.isSome_iff_exists.2 ⟨t, htx⟩) hw).symm.trans ho
    have hstarts : w.database.connection.startsSession .connect = false := by
      rw [Tracked.startsSession]
      exact Bool.and_eq_false_iff.2 (.inl (congrArg Bool.not hopen))
    have hsession : (w.database.connection.record .connect).session = w.session := by
      rw [Tracked.record, hstarts]
      rfl
    show HasOpen ends _ t (w.database.connection.record .connect).session
    rw [hsession]
    refine (hb t htx hopen).extend hw hbegun rfl fun x hx => ?_
    rw [List.mem_singleton.1 hx]
    exact ⟨rfl, hends.connect⟩
  | left isDisposed hu =>
    intro t htx
    cases htx
  | refused t ho ht hs =>
    intro t' htx
    cases ht.symm.trans htx
  | begun t ho ht hid hs =>
    intro t' htx ho'
    cases htx
    have hsucceeds := (Tracked.succeeds_eq w.database.connection (.batch t.beginSql)).symm.trans hs
    have hlast : (w.database.connection.record (.batch t.beginSql)).history =
        w.history ++ [⟨w.session, .batch t.beginSql, true⟩] := by
      rw [Tracked.record, hsucceeds]
      rfl
    refine ⟨w.history.length, by simp, ?_, ?_⟩
    · show (w.database.connection.record (.batch t.beginSql)).history[w.history.length]? = _
      rw [hlast, List.getElem?_concat_length]
      rfl
    · show ∀ x ∈ (w.database.connection.record (.batch t.beginSql)).history.drop _, _
      rw [hlast]
      simp
  | finished how t ho ht =>
    intro t' htx
    cases htx
  | saved action name sql t ho ht hs =>
    have hsql := hends.savepoint action name sql hs
    exact of_calls [.batch sql] hw hb (by simp) (by simpa using hsql) rfl rfl hbegun
  | sent c rest hown ho hc hr =>
    refine of_calls (c :: rest) hw hb (not_connect_of_isOwn hc hr) (fun x hx => ?_) rfl rfl hbegun
    rcases List.mem_cons.1 hx with rfl | hx
    · exact hq hown x List.mem_cons_self (isStatement_of_isOwn hc)
    · rcases hr with rfl | rfl
      · cases hx
      · rw [List.mem_singleton.1 hx]
        exact hends.cancel

theorem Bracketed.step (hends : EndsTransaction ends) (hw : w.Regular) (hb : w.Bracketed ends)
    {e : Event κ} (hq : w.CallerQuiet ends e) (hno : ¬ w.Reopens e) :
    (w.step e).Bracketed ends := by
  cases e with
  | breakDown connection =>
    rw [World.step]
    split
    · next h =>
      intro t ht ho
      have hbroken : (Connection.state connection).isOpen = true := ho
      rw [h.2] at hbroken
      cases hbroken
    · exact hb
  | operate op =>
    refine hb.of_effect hends hw (w.effect_perform op) hq fun ht ho => ?_
    exact Bool.eq_false_iff.2 fun ho' => hno ⟨ht, ho, ho'⟩

/-- Opening the connection in an active transaction breaks the bracket: the session is one in
which no call has been made. -/
theorem not_bracketed_of_reopens (hw : w.Regular) {e : Event κ} (h : w.Reopens e) :
    ¬ (w.step e).Bracketed ends := by
  obtain ⟨ht, hclosed, hopen⟩ := h
  have hstill {p : Prop} (ho : w.isOpen = true) : p := by
    cases hclosed.symm.trans ho
  cases e with
  | breakDown connection =>
    rw [World.step] at hopen
    split at hopen
    · next h => exact hstill h.1
    · exact hstill hopen
  | operate op =>
    rcases (w.effect_perform op).connection_cases with
      ⟨-, hnone, -, -⟩ | ⟨hk, htx, hb, -⟩ | ⟨hc, hk, -⟩
    · rw [hnone] at ht
      cases ht
    · intro hbracketed
      obtain ⟨t, ht⟩ := Option.isSome_iff_exists.1 ht
      have hconn : (w.step (.operate op)).database.connection =
          w.database.connection.record .connect := hk
      have hsession : (w.step (.operate op)).session = w.session + 1 := by
        have hstarts : w.database.connection.startsSession .connect = true := by
          rw [isOpen, hconn] at hopen
          rcases SessionLaws.isOpen_of_after w.database.connection.inner .connect hopen with
            h | ⟨-, h⟩
          · exact hstill h
          · rw [Tracked.startsSession]
            exact Bool.and_eq_true_iff.2 ⟨congrArg Bool.not hclosed, h⟩
        rw [session, hconn, Tracked.record, hstarts]
        rfl
      obtain ⟨i, hi, hget, -⟩ := hbracketed t (htx.trans ht) hopen
      have hi : (t, i) ∈ w.begun := by
        have hbegun : (w.step (.operate op)).begun = w.begun ++ [] := by
          rw [World.step, hb]
          rfl
        rwa [hbegun, List.append_nil] at hi
      obtain ⟨-, new, hnew, -⟩ := history_operate w op
      rw [hnew, List.getElem?_append_left (hw.places _ hi), hsession] at hget
      have hle := hw.sessions _ (List.mem_of_getElem? hget)
      exact absurd hle (Nat.not_succ_le_self w.session)
    · exact hstill (isOpen_of_calls hc hk hopen)

/-- In a bracketed state, what is sent in a transaction goes to its session. -/
theorem sendsWithin (hb : w.Bracketed ends) (e : Event κ) : w.SendsWithin ends e := by
  intro x hx
  cases e with
  | breakDown connection =>
    have hsame : (w.step (.breakDown connection)).history = w.history := by
      rw [World.step]
      split <;> rfl
    rw [hsame, List.drop_length] at hx
    cases hx
  | operate op =>
    obtain ⟨-, new, hnew, hcalls, hin, -⟩ := history_operate w op
    rw [hnew, List.drop_left] at hx
    have hmem : x.call ∈ (w.perform op).2.calls := by
      rw [← hcalls]
      exact List.mem_map_of_mem hx
    obtain ⟨hopen, hhandle, hown⟩ := (w.effect_perform op).calls_within hmem
    refine ⟨?_, hhandle, ?_⟩
    · intro t ht hs
      rw [hin x hx]
      exact hb t ht (hopen hs)
    · rintro op' sql ⟨⟩ hquiet
      exact hown hquiet sql

/-! ## Runs -/

variable {d : Database κ} {events : List (Event κ)}

theorem regular_run {i : Nat} (hi : i ≤ events.length) :
    ((start d).run (events.take i)).Regular :=
  run_induction (regular_start d) (fun _ _ hw => hw.step _) i hi

theorem bracketed_run (hends : EndsTransaction ends) (hd : d.transaction = none)
    (hq : ∀ i (h : i < events.length), ((start d).run (events.take i)).CallerQuiet ends events[i])
    (hno : ∀ i (h : i < events.length), ¬ ((start d).run (events.take i)).Reopens events[i]) :
    ∀ i ≤ events.length, ((start d).run (events.take i)).Bracketed ends := by
  refine run_induction ?_ fun i h hb => ?_
  · intro t ht
    cases hd.symm.trans ht
  · exact hb.step hends (regular_run (Nat.le_of_lt h)) (hq i h) (hno i h)

/-- A run in which the caller ends no transaction by its own statements keeps an active transaction
in the session of its `BEGIN` exactly as long as it never opens a closed or broken connection while
a transaction is active. Then all that is sent in a transaction goes to that session. -/
theorem bracketed_iff (hends : EndsTransaction ends) (hd : d.transaction = none)
    (hq : ∀ i (h : i < events.length), ((start d).run (events.take i)).CallerQuiet ends events[i]) :
    ((∀ i ≤ events.length, ((start d).run (events.take i)).Bracketed ends) ↔
      ∀ i (h : i < events.length), ¬ ((start d).run (events.take i)).Reopens events[i]) ∧
    ((∀ i (h : i < events.length), ¬ ((start d).run (events.take i)).Reopens events[i]) →
      ∀ i (h : i < events.length),
        ((start d).run (events.take i)).SendsWithin ends events[i]) := by
  refine ⟨⟨?_, ?_⟩, ?_⟩
  · intro hb i h hre
    have hnext := hb (i + 1) h
    rw [run_take_succ _ h] at hnext
    exact not_bracketed_of_reopens (regular_run (Nat.le_of_lt h)) hre hnext
  · exact bracketed_run hends hd hq
  · intro hno i h
    exact sendsWithin (bracketed_run hends hd hq hno i (Nat.le_of_lt h)) events[i]

/-- A session breaks down in a transaction, which is given up by closing; the transaction after it
is open in the second session. -/
theorem bracketed_iff_second_session :
    let d : Database ScriptedConnection := .ofConnection ⟨"", .closed, [], [], false⟩
    let events : List (Event ScriptedConnection) :=
      [.operate .openConnection, .operate (.begin .serializable false),
        .operate (.execute "DELETE FROM t" .empty none), .operate (.savepoint .save "s"),
        .breakDown ⟨"", .broken, [], [], false⟩, .operate .closeConnection,
        .operate .openConnection, .operate (.begin .readCommitted true)]
    ((start d).run events).HasOpen ConnectionCall.isFinish ⟨1, .readCommitted, true⟩ 2 ∧
    ∀ i (h : i < events.length),
      ((start d).run (events.take i)).SendsWithin ConnectionCall.isFinish events[i] := by
  intro d events
  have hq : ∀ i (h : i < events.length),
      ((start d).run (events.take i)).CallerQuiet ConnectionCall.isFinish events[i] := by
    decide +kernel
  have h := bracketed_iff endsTransaction_isFinish (rfl : d.transaction = none) hq
  have hno : ∀ i (h : i < events.length), ¬ ((start d).run (events.take i)).Reopens events[i] := by
    decide +kernel
  have hsession : ((start d).run events).session = 2 := by decide +kernel
  refine ⟨?_, h.2 hno⟩
  rw [← hsession]
  exact h.1.2 hno 8 (Nat.le_refl 8) _ (by decide +kernel) (by decide +kernel)

/-- The bracket is lost where the connection is opened again in a transaction. The `COMMIT` then
succeeds in a session that has none. -/
theorem not_bracketed_opened_again :
    let d : Database ScriptedConnection := .ofConnection ⟨"", .closed, [], [], false⟩
    let events : List (Event ScriptedConnection) :=
      [.operate .openConnection, .operate (.begin .readCommitted false),
        .breakDown ⟨"", .broken, [], [], false⟩, .operate .openConnection]
    let w := (start d).run events
    (∀ i (h : i < events.length),
      ((start d).run (events.take i)).CallerQuiet ConnectionCall.isFinish events[i]) ∧
    w.database.transaction = some ⟨0, .readCommitted, false⟩ ∧ w.isOpen = true ∧
    ¬ w.Bracketed ConnectionCall.isFinish ∧
    (w.perform (.finish .commit)).1.isOk = true ∧
    ((w.step (.operate (.finish .commit))).history.map fun x => (x.session, x.succeeded)) =
      [(0, true), (1, true), (1, true), (2, true)] := by
  intro d events w
  refine ⟨by decide +kernel, by decide +kernel, by decide +kernel, ?_, by decide +kernel,
    by decide +kernel⟩
  have hre : ((start d).run (events.take 3)).Reopens (.operate .openConnection) := by
    decide +kernel
  exact not_bracketed_of_reopens (regular_run (by decide)) hre

end World

end SqlAccess

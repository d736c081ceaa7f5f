import SqlAccess.Connection.Client
import SqlAccess.Connection.Scripted
import SqlAccess.Proofs.Database.Effect

/-!
# Sessions of a connection

A connection lives through sessions: opening one that is not open starts the next. `Tracked` counts
them and writes down in which of them each call is made, and `World` runs operations on a database
object with such a connection, interleaved with sessions that break down. Calls other than a
successful `connect` start no session and open nothing (`SessionLaws`, `foldl_record`).
-/

namespace SqlAccess

variable {κ : Type}

/-- A call, the session in which it is made and whether it succeeds. -/
structure Exchange where
  session : Nat
  call : ConnectionCall
  succeeded : Bool

/-- A connection with the number of its session and the calls made so far. -/
structure Tracked (κ : Type) where
  inner : κ
  session : Nat
  history : List Exchange

/-- Only a `connect` that succeeds opens a connection that is not open. -/
class SessionLaws (κ : Type) [Connection κ] : Prop where
  isOpen_of_after : ∀ (k : κ) (c : ConnectionCall), (Connection.state (c.after k)).isOpen = true →
    (Connection.state k).isOpen = true ∨ c = .connect ∧ c.succeeds k = true

instance : SessionLaws ScriptedConnection where
  isOpen_of_after k c h := by
    cases c with
    | connect => exact .inr ⟨rfl, rfl⟩
    | disconnect => cases h
    | batch sql => exact .inl h
    | execute c => exact .inl h
    | query c => exact .inl h
    | cancel => exact .inl h

namespace Client

/-- A statement leaves the line as it is, whatever the server answers. -/
theorem link_run {α : Type} (c : Client) (command : Command)
    (finish : ServerAnswer → Except Error α) : (c.run command finish).2.link = c.link := by
  unfold run
  split
  · rfl
  · dsimp only
    split <;> rfl

theorem link_batch (c : Client) (sql : String) : (c.batch sql).2.link = c.link := by
  unfold batch
  split <;> rfl

/-- A client gets a line exactly if it is not open, its address can be used and the server takes
one. -/
theorem reach_eq_ok_iff (c : Client) :
    c.reach = .ok () ↔ c.state.isOpen = false ∧ (∃ a, Address.resolve c.address = .ok a) ∧
      c.answer.refusal = none := by
  unfold reach newLine
  cases c.state.isOpen with
  | true => simp
  | false =>
    cases Address.resolve c.address with
    | error e => simp
    | ok a => cases c.answer.refusal <;> simp

/-- A client that gets a line is open; one that gets none is left as it is. -/
theorem connect_cases (c : Client) :
    (c.reach = .ok () ∧ c.connect = (.ok (), { c with link := .live })) ∨
      ∃ e, c.reach = .error e ∧ c.connect = (.error e, c) := by
  unfold connect
  cases c.reach with
  | ok => exact .inl ⟨rfl, rfl⟩
  | error e => exact .inr ⟨e, rfl, rfl⟩

example : ((closed "host=db").awaiting { silent with refusal := none }).connect.2.state =
    .open := by
  decide +kernel

/-- What leaves the line opens nothing. -/
theorem isOpen_of_link_eq {c c' : Client} (h : c'.link = c.link) (hopen : c'.state.isOpen = true) :
    c.state.isOpen = true := by
  rwa [state, h] at hopen

end Client

instance : SessionLaws Client where
  isOpen_of_after k c h := by
    cases c with
    | connect =>
      obtain ⟨-, hc⟩ | ⟨e, -, hc⟩ := k.connect_cases
      · have hs : ConnectionCall.succeeds k .connect = true := congrArg (·.1.isOk) hc
        exact .inr ⟨rfl, hs⟩
      · have hk : ConnectionCall.after k .connect = k := congrArg Prod.snd hc
        rw [hk] at h
        exact .inl h
    | disconnect => cases h
    | batch sql => exact .inl (Client.isOpen_of_link_eq (k.link_batch sql) h)
    | execute command => exact .inl (Client.isOpen_of_link_eq (k.link_run command _) h)
    | query command => exact .inl (Client.isOpen_of_link_eq (k.link_run command _) h)
    | cancel => exact .inl h

namespace Tracked

variable [Connection κ]

/-- Whether a call starts a session. -/
def startsSession (k : Tracked κ) (c : ConnectionCall) : Bool :=
  match c with
  | .connect => !(Connection.state k.inner).isOpen && c.succeeds k.inner
  | _ => false

/-- The connection after a call, with the call written down. -/
def record (k : Tracked κ) (c : ConnectionCall) : Tracked κ where
  inner := c.after k.inner
  session := if k.startsSession c then k.session + 1 else k.session
  history := k.history ++ [⟨k.session, c, c.succeeds k.inner⟩]

instance : Connection (Tracked κ) where
  description k := Connection.description k.inner
  state k := Connection.state k.inner
  connect k := ((Connection.connect k.inner).1, k.record .connect)
  disconnect k := ((Connection.disconnect k.inner).1, k.record .disconnect)
  batch sql k := ((Connection.batch sql k.inner).1, k.record (.batch sql))
  execute c k := ((Connection.execute c k.inner).1, k.record (.execute c))
  query c k := ((Connection.query c k.inner).1, k.record (.query c))
  cancel k := ((Connection.cancel k.inner).1, k.record .cancel)

theorem after_eq_record (k : Tracked κ) (c : ConnectionCall) : c.after k = k.record c := by
  cases c <;> rfl

theorem succeeds_eq (k : Tracked κ) (c : ConnectionCall) : c.succeeds k = c.succeeds k.inner := by
  cases c <;> rfl

theorem session_le_record (k : Tracked κ) (c : ConnectionCall) :
    k.session ≤ (k.record c).session := by
  show k.session ≤ if k.startsSession c then k.session + 1 else k.session
  split <;> omega

/-- Calls that do not connect stay in their session. -/
theorem foldl_record [SessionLaws κ] {calls : List ConnectionCall} (hc : .connect ∉ calls)
    (k : Tracked κ) :
    let k' := calls.foldl ConnectionCall.after k
    k'.session = k.session ∧
      (∃ new, k'.history = k.history ++ new ∧ new.map (·.call) = calls ∧
        ∀ x ∈ new, x.session = k.session) ∧
      ((Connection.state k').isOpen = true → (Connection.state k).isOpen = true) := by
  induction calls generalizing k with
  | nil => exact ⟨rfl, ⟨[], (List.append_nil _).symm, rfl, by simp⟩, id⟩
  | cons c calls ih =>
    obtain ⟨hne, hcalls⟩ := not_or.1 (mt List.mem_cons.2 hc)
    obtain ⟨hsession, ⟨new, hnew, hcall, hin⟩, hopen⟩ := ih hcalls (c.after k)
    have hstarts : k.startsSession c = false := by
      cases c with
      | connect => exact absurd rfl hne
      | disconnect | batch | execute | query | cancel => rfl
    have hsame : (c.after k).session = k.session := by
      rw [after_eq_record, record, hstarts]
      rfl
    refine ⟨hsession.trans hsame, ⟨⟨k.session, c, c.succeeds k.inner⟩ :: new, ?_, ?_, ?_⟩, ?_⟩
    · rw [List.foldl_cons, hnew, after_eq_record, record]
      simp
    · rw [List.map_cons, hcall]
    · intro x hx
      rcases List.mem_cons.1 hx with rfl | hx
      · rfl
      · exact (hin x hx).trans hsame
    · intro h
      have h := hopen h
      rw [after_eq_record] at h
      rcases SessionLaws.isOpen_of_after k.inner c h with h | ⟨rfl, -⟩
      · exact h
      · exact absurd rfl hne

end Tracked

/-! ## Runs -/

/-- A database object on a tracked connection, and the transactions begun on it, each with the
place of its `BEGIN` in the history. -/
structure World (κ : Type) where
  database : Database (Tracked κ)
  begun : List (Transaction × Nat)

/-- What happens next: an operation, or the breakdown of an open session, which leaves the
connection as it is given. -/
inductive Event (κ : Type)
  | operate (op : Operation κ)
  | breakDown (connection : κ)

namespace World

variable [Connection κ]

def history (w : World κ) : List Exchange := w.database.connection.history

def session (w : World κ) : Nat := w.database.connection.session

def isOpen (w : World κ) : Bool := (Connection.state w.database.connection).isOpen

/-- What comes of an operation. A connection put in the place of the present one has a session of
its own. -/
def perform (w : World κ) (op : Operation κ) :
    Except Error (Option Transaction) × Journal (Tracked κ) :=
  Database.perform (op.map fun k => ⟨k, w.session + 1, w.history⟩).run w.database

def step (w : World κ) : Event κ → World κ
  | .operate op =>
    let r := w.perform op
    ⟨r.2.database, w.begun ++ ((begunBy r.1).map fun t => (t, w.history.length)).toList⟩
  | .breakDown connection =>
    if w.isOpen = true ∧ Connection.state connection = .broken then
      { w with database.connection.inner := connection }
    else w

def run (w : World κ) (events : List (Event κ)) : World κ :=
  events.foldl step w

/-- An object before any operation, on a connection whose calls are written down from now on. -/
def start (d : Database κ) : World κ :=
  ⟨{ d with connection := ⟨d.connection, 0, []⟩ }, []⟩

theorem run_take_succ (w : World κ) {events : List (Event κ)} {i : Nat} (h : i < events.length) :
    w.run (events.take (i + 1)) = (w.run (events.take i)).step events[i] := by
  rw [List.take_succ_eq_append_getElem h, run, List.foldl_append]
  rfl

/-- What every event of a run keeps holds after each part of the run. -/
theorem run_induction {P : World κ → Prop} {w : World κ} {events : List (Event κ)} (hw : P w)
    (hstep : ∀ i (h : i < events.length), P (w.run (events.take i)) →
      P ((w.run (events.take i)).step events[i])) :
    ∀ i ≤ events.length, P (w.run (events.take i)) := by
  intro i hi
  induction i with
  | zero => exact hw
  | succ i ih =>
    rw [run_take_succ w hi]
    exact hstep i hi (ih (Nat.le_of_succ_le hi))

/-- The effect of an operation in a run. -/
theorem effect_perform (w : World κ) (op : Operation κ) :
    Database.Effect op.sendsText (op.offered?.map fun k => ⟨k, w.session + 1, w.history⟩)
      w.database (begunBy (w.perform op).1) (w.perform op).2.database (w.perform op).2.calls := by
  have h := (op.map fun k => ⟨k, w.session + 1, w.history⟩).effect_run w.database
  rwa [Operation.sendsText_map, Operation.offered?_map] at h

end World

end SqlAccess

import SqlAccess.Connection.Scripted
import SqlAccess.Database.Race
import SqlAccess.Proofs.Database.Refusal

/-!
# One outcome for each race

However the wait for a command goes, it ends with the event that is found first (`winner?`), and the
outcome belongs to that event: the command's own result and no call beside the command, or its
timeout or its cancellation and exactly one call that cancels (`Database.Ends`). Until then at most
the command has been sent (`Database.Underway`), which is what each look at the events keeps.
-/

namespace SqlAccess

namespace Database

variable {κ α : Type}

/-- The event that ends a wait: of the first poll in which any has come, the one looked at first. -/
def winner? (polls : List Poll) : Option Winner :=
  polls.findSome? fun p => p.order.find? p.ready

variable [Connection κ]

section

variable (d : Database κ) (c : Command) (made : ConnectionCall) (f : κ → Pending α × κ)

/-- While nothing has come, the command has not been sent, or it has been and no other call made. -/
inductive Underway : Option (Except Error α) → Journal κ → Prop
  | unsent (events : List LogEvent) : Underway none ⟨d, [], events⟩
  | sent (events : List LogEvent) :
      Underway (some (f d.connection).1.result) ⟨d.calling [made], [made], events⟩

/-- What a command gives and which calls are made where an event ends the wait for it. -/
inductive Ends : Winner → Except Error α → List ConnectionCall → Prop
  | completed : Ends .completion (f d.connection).1.result [made]
  | timedOut {sent : List ConnectionCall} (hsent : sent = [] ∨ sent = [made]) :
      Ends .timeout (.error (.timeout c.timeout)) (sent ++ [.cancel])
  | cancelled {sent : List ConnectionCall} (hsent : sent = [] ∨ sent = [made]) :
      Ends .cancellation (.error .cancelled) (sent ++ [.cancel])

/-- What a race gives and which calls it makes: it goes on as long as nothing comes, with at most the
command sent, and ends with the event that is found first. -/
inductive Outcome (polls : List Poll) : Except Error (Option α) → List ConnectionCall → Prop
  | waiting {calls : List ConnectionCall} (hidle : ∀ p ∈ polls, ∀ w, p.ready w = false)
      (hcalls : calls = [] ∨ calls = [made]) : Outcome polls (.ok none) calls
  | ended {w : Winner} {result : Except Error α} {calls : List ConnectionCall}
      (hw : winner? polls = some w) (h : Ends d c made f w result calls) :
      Outcome polls (result.map some) calls

/-- The law of a race with these polls that gives `r`. -/
structure Raced (polls : List Poll) (r : Except Error (Option α) × Journal κ) : Prop where
  /-- a command that may not run is refused: nothing is called and nothing changes -/
  refused : ∀ e, d.runningError? c.transaction = some e → r = (.error e, ⟨d, [], []⟩)
  /-- any other one ends with the event that is found first -/
  outcome : d.runningError? c.transaction = none → Outcome d c made f polls r.1 r.2.calls
  /-- of the object, only its connection is another one: the one in use, after the calls -/
  database : r.2.database = d.calling r.2.calls

end

/-! ## One look at the events -/

variable {d : Database κ} {c : Command} {made : ConnectionCall} {f : κ → Pending α × κ}
  {sent : Option (Except Error α)} {j : Journal κ}

theorem Underway.calls (h : Underway d made f sent j) :
    (j.calls = [] ∨ j.calls = [made]) ∧ j.database = d.calling j.calls := by
  cases h with
  | unsent events => exact ⟨.inl rfl, rfl⟩
  | sent events => exact ⟨.inr rfl, rfl⟩

/-- The command is sent once at most. -/
theorem Underway.sends (hf : ∀ k, (f k).2 = made.after k) (h : Underway d made f sent j) :
    ∃ events, runFrom (send made f sent) j =
      (.ok (f d.connection).1.result, ⟨d.calling [made], [made], events⟩) := by
  cases h with
  | unsent events =>
    refine ⟨events, ?_⟩
    rw [calling, List.foldl_cons, List.foldl_nil, ← hf]
    rfl
  | sent events => exact ⟨events, rfl⟩

/-- A request to cancel is one call whether it fails or not. -/
theorem Underway.cancels (h : Underway d made f sent j) :
    ∃ calls events, (calls = [] ∨ calls = [made]) ∧
      runFrom requestCancel j =
        (.ok (), ⟨d.calling (calls ++ [.cancel]), calls ++ [.cancel], events⟩) := by
  obtain ⟨hcalls, hd⟩ := h.calls
  obtain ⟨events, hcancel⟩ := runFrom_requestCancel j
  refine ⟨j.calls, events, hcalls, ?_⟩
  rw [hcancel, hd, calling_calling]

/-- Whether one of the events has come, and what has been done by then. -/
theorem look_spec (hf : ∀ k, (f k).2 = made.after k) (ready : Winner → Bool) (order : List Winner)
    (h : Underway d made f sent j) :
    match order.find? ready with
    | none => ∃ sent' j', runFrom (look made f c.timeout ready order sent) j =
        (.ok (.waiting sent'), j') ∧ Underway d made f sent' j'
    | some w => ∃ result calls events, runFrom (look made f c.timeout ready order sent) j =
        (.ok (.over result), ⟨d.calling calls, calls, events⟩) ∧ Ends d c made f w result calls := by
  induction order generalizing sent j with
  | nil => exact ⟨sent, j, rfl, h⟩
  | cons w order ih =>
    cases hready : ready w with
    | false =>
      rw [List.find?_cons_of_neg (by simp [hready])]
      cases w with
      | completion =>
        obtain ⟨events, hsend⟩ := h.sends hf
        simp only [look, runFrom_bind, hsend, hready]
        exact ih (.sent events)
      | timeout =>
        simp only [look, hready]
        exact ih h
      | cancellation =>
        simp only [look, hready]
        exact ih h
    | true =>
      rw [List.find?_cons_of_pos hready]
      cases w with
      | completion =>
        obtain ⟨events, hsend⟩ := h.sends hf
        simp only [look, runFrom_bind, hsend, hready]
        exact ⟨_, _, events, rfl, .completed⟩
      | timeout =>
        obtain ⟨calls, events, hcalls, hcancel⟩ := h.cancels
        simp only [look, hready, if_true, runFrom_bind, hcancel, runFrom_pure]
        exact ⟨_, _, events, rfl, .timedOut hcalls⟩
      | cancellation =>
        obtain ⟨calls, events, hcalls, hcancel⟩ := h.cancels
        simp only [look, hready, if_true, runFrom_bind, hcancel, runFrom_pure]
        exact ⟨_, _, events, rfl, .cancelled hcalls⟩

/-! ## The whole wait -/

theorem Poll.ready_eq_false {p : Poll} (h : p.order.find? p.ready = none) (w : Winner) :
    p.ready w = false := by
  have hw : w ∈ p.order := p.isOrder.mem_iff.2 (by cases w <;> simp)
  simpa using List.find?_eq_none.1 h w hw

omit [Connection κ] in
theorem Outcome.cons {p : Poll} {polls : List Poll} {r : Except Error (Option α)}
    {calls : List ConnectionCall} (hp : p.order.find? p.ready = none)
    (h : Outcome d c made f polls r calls) : Outcome d c made f (p :: polls) r calls := by
  cases h with
  | waiting hidle hcalls =>
    exact .waiting (List.forall_mem_cons.2 ⟨p.ready_eq_false hp, hidle⟩) hcalls
  | ended hw h =>
    refine .ended ?_ h
    rwa [winner?, List.findSome?_cons_of_isNone (by rw [hp]; rfl)]

theorem awaitCommand_spec (use : CommandUse) (hf : ∀ k, (f k).2 = made.after k)
    (polls : List Poll) (h : Underway d made f sent j) :
    let r := runFrom (awaitCommand use c made f polls sent) j
    Outcome d c made f polls r.1 r.2.calls ∧ r.2.database = d.calling r.2.calls := by
  induction polls generalizing sent j with
  | nil =>
    obtain ⟨hcalls, hd⟩ := h.calls
    exact ⟨.waiting nofun hcalls, hd⟩
  | cons p polls ih =>
    have hlook := look_spec (c := c) hf p.ready p.order h
    simp only [awaitCommand, runFrom_bind]
    cases hw : p.order.find? p.ready with
    | none =>
      rw [hw] at hlook
      obtain ⟨sent', j', hrun, h'⟩ := hlook
      rw [hrun]
      obtain ⟨hout, hd⟩ := ih h'
      exact ⟨hout.cons hw, hd⟩
    | some w =>
      rw [hw] at hlook
      obtain ⟨result, calls, events, hrun, hends⟩ := hlook
      have hwinner : winner? (p :: polls) = some w := by rw [winner?, List.findSome?_cons, hw]
      obtain ⟨events', hlog⟩ := runFrom_logCommand use c p.elapsed result
        ⟨d.calling calls, calls, events⟩
      simp only [hrun, runFrom_bind, hlog, runFrom_conclude]
      cases result with
      | ok x => exact ⟨.ended hwinner hends, rfl⟩
      | error e => exact ⟨.ended hwinner hends, rfl⟩

theorem raceCommand_spec (use : CommandUse) (hf : ∀ k, (f k).2 = made.after k) (polls : List Poll) :
    Raced d c made f polls (perform (raceCommand use c made f polls) d) := by
  have hrun : perform (raceCommand use c made f polls) d =
      runFrom (requireRunnable c >>= fun _ => awaitCommand use c made f polls none) ⟨d, [], []⟩ :=
    rfl
  cases herror : d.runningError? c.transaction with
  | some e =>
    rw [hrun, (refuses_requireRunnable herror).bind [] []]
    exact ⟨fun e' he => by rw [Option.some.inj (herror.symm.trans he)],
      fun hnone => absurd (herror.symm.trans hnone) nofun, rfl⟩
  | none =>
    rw [hrun, runFrom_bind, gives_requireRunnable herror [] []]
    obtain ⟨hout, hd⟩ := awaitCommand_spec use hf polls (c := c) (.unsent (d := d) [])
    exact ⟨fun e he => absurd (herror.symm.trans he) nofun, fun _ => hout, hd⟩

/-! ## The race that is run -/

/-- The statement is sent at once, and only `w` has come by then. -/
def Poll.won (c : Command) (p : Pending α) (w : Winner) : Poll where
  elapsed := if w = .completion then p.delay.getD ⟨0⟩ else c.timeout
  order := [.completion, .timeout, .cancellation]
  isOrder := .refl _
  ready := (· == w)

theorem map_settle (use : CommandUse) (p : Pending α) (w : Winner) :
    some <$> settle use c p w = awaitCommand use c made f [.won c p w] (some p.result) := by
  cases w <;> simp [settle, awaitCommand, look, send, Poll.won, map_bind]

theorem awaitCommand_won (use : CommandUse) (p : Pending α) (w : Winner) :
    awaitCommand use c made f [.won c p w] none =
      call made f >>= fun p' => awaitCommand use c made f [.won c p w] (some p'.result) := by
  simp [awaitCommand, look, send, Poll.won]

/-- Running a command is a race: what ends the wait is the only event that comes. -/
theorem runFrom_runCommand (use : CommandUse) (winner : Pending α → Winner) (j : Journal κ) :
    let p := (f j.database.connection).1
    runFrom (some <$> runCommand use c made f winner) j =
      runFrom (raceCommand use c made f [.won c p (winner p)]) j := by
  intro p
  have hleft : some <$> runCommand use c made f winner =
      requireRunnable c >>= fun _ => call made f >>= fun p =>
        awaitCommand use c made f [.won c p (winner p)] (some p.result) := by
    rw [runCommand]
    simp only [map_bind]
    refine bind_congr fun _ => bind_congr fun p => ?_
    exact map_settle use p (winner p)
  obtain ⟨d, calls, events⟩ := j
  rw [hleft, raceCommand, awaitCommand_won, runFrom_bind, runFrom_bind]
  cases herror : d.runningError? c.transaction with
  | some e => rw [refuses_requireRunnable herror calls events]
  | none =>
    rw [gives_requireRunnable herror calls events]
    simp only [runFrom_bind, runFrom_call]
    rfl

/-- In every state of an object, running a command for the number of rows it affects or for its rows
has one outcome, whatever events come when and in whatever order they are looked at: if the command
may not run, neither it nor a request to cancel is sent; if it may, it ends with its own result and
no such request, or with its timeout or as cancelled and exactly one, whatever comes of that
request. The object stays as it is, but for what the calls do to the connection in use. What
`executeCommand` and `queryCommand` do is such a race, whenever the signal to cancel comes. -/
theorem race_outcome (d : Database κ) (c : Command) :
    (∀ polls, Raced d c (.execute c) (Connection.execute c) polls
      (perform (raceExecute c polls) d)) ∧
    (∀ polls, Raced d c (.query c) (Connection.query c) polls (perform (raceQuery c polls) d)) ∧
    ∀ cancel,
      (∃ polls, perform (some <$> executeCommand c cancel) d = perform (raceExecute c polls) d) ∧
      ∃ polls, perform (some <$> queryCommand c cancel) d = perform (raceQuery c polls) d :=
  ⟨raceCommand_spec .execute fun _ => rfl, raceCommand_spec .query fun _ => rfl, fun _ =>
    ⟨⟨_, runFrom_runCommand .execute _ _⟩, ⟨_, runFrom_runCommand .query _ _⟩⟩⟩

-- a signal that is seen before the statement is sent, and a request to cancel that fails
example :
    let k : ScriptedConnection := ⟨"", .open, [], [], true⟩
    let p : Poll := ⟨⟨0⟩, [.cancellation, .completion, .timeout], by decide, fun _ => true⟩
    let r := perform (raceExecute (.ofText "SELECT 1") [p]) (ofConnection k)
    r.1 = .error .cancelled ∧ r.2.calls = [.cancel] :=
  ⟨rfl, rfl⟩

end Database

end SqlAccess

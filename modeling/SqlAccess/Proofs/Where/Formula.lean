import Mathlib.Logic.Function.Iterate

/-!
# Conditions with connectors

How conditions joined by `AND`, `OR` and `NOT` are read: `NOT` binds tightest, then `AND`, then
`OR`, and parentheses group. `Parses` is the grammar; `Formula.parse?` reads the symbols one by one
and gives just what the grammar allows (`Formula.parse?_eq_some_iff`), so the grammar leaves no
choice (`Parses.unique`).
-/

namespace SqlAccess

inductive Keyword
  | and
  | or
  | not
  deriving DecidableEq, Repr

inductive Symbol
  | operand (word : String)
  | keyword (k : Keyword)
  | opening
  | closing
  deriving DecidableEq, Repr

inductive Formula
  | atom (word : String)
  | not (f : Formula)
  | and (f g : Formula)
  | or (f g : Formula)
  deriving DecidableEq, Repr

/-- The truth of a formula, given that of the atoms. -/
def Formula.eval (truth : String → Bool) : Formula → Bool
  | atom word => truth word
  | not f => !f.eval truth
  | and f g => f.eval truth && g.eval truth
  | or f g => f.eval truth || g.eval truth

/-! ## Grammar -/

/-- How tight a text holds together. -/
inductive Strength
  | primary
  | negation
  | conjunction
  | disjunction

inductive Parses : Strength → List Symbol → Formula → Prop
  | atom (word : String) : Parses .primary [.operand word] (.atom word)
  | parenthesized {s : List Symbol} {f : Formula} (h : Parses .disjunction s f) :
      Parses .primary (.opening :: s ++ [.closing]) f
  | primary {s : List Symbol} {f : Formula} (h : Parses .primary s f) : Parses .negation s f
  | not {s : List Symbol} {f : Formula} (h : Parses .negation s f) :
      Parses .negation (.keyword .not :: s) (.not f)
  | negation {s : List Symbol} {f : Formula} (h : Parses .negation s f) : Parses .conjunction s f
  | and {s t : List Symbol} {f g : Formula} (hf : Parses .conjunction s f)
      (hg : Parses .negation t g) : Parses .conjunction (s ++ .keyword .and :: t) (.and f g)
  | conjunction {s : List Symbol} {f : Formula} (h : Parses .conjunction s f) :
      Parses .disjunction s f
  | or {s t : List Symbol} {f g : Formula} (hf : Parses .disjunction s f)
      (hg : Parses .conjunction t g) : Parses .disjunction (s ++ .keyword .or :: t) (.or f g)

namespace Formula

/-! ## Reading symbol by symbol -/

/-- A formula with what stands in front of it. -/
def joined (op : Formula → Formula → Formula) : Option Formula → Formula → Formula
  | none, f => f
  | some g, f => op g f

/-- What stands in front of an operand inside its parentheses: the formula before the last `OR`,
the one behind that before the last `AND`, and the number of `NOT`s behind that. -/
structure Frame where
  disjuncts : Option Formula
  conjuncts : Option Formula
  negations : Nat

/-- Nothing stands in front of the operand. -/
def Frame.start : Frame := ⟨none, none, 0⟩

/-- The conjunction that `f` as an operand completes. -/
def Frame.conjunction (fr : Frame) (f : Formula) : Formula :=
  joined .and fr.conjuncts (Formula.not^[fr.negations] f)

/-- What is read so far, with a frame for every open parenthesis. -/
inductive State
  /-- an operand must come -/
  | operand (fr : Frame) (outer : List Frame)
  /-- an operand has come, which completes the conjunction `f` -/
  | operator (disjuncts : Option Formula) (f : Formula) (outer : List Frame)

def step : State → Symbol → Option State
  | .operand fr outer, .operand word =>
    some (.operator fr.disjuncts (fr.conjunction (.atom word)) outer)
  | .operand fr outer, .keyword .not =>
    some (.operand { fr with negations := fr.negations + 1 } outer)
  | .operand fr outer, .opening => some (.operand .start (fr :: outer))
  | .operator d f outer, .keyword .and => some (.operand ⟨d, some f, 0⟩ outer)
  | .operator d f outer, .keyword .or => some (.operand ⟨some (joined .or d f), none, 0⟩ outer)
  | .operator d f (fr :: outer), .closing =>
    some (.operator fr.disjuncts (fr.conjunction (joined .or d f)) outer)
  | _, _ => none

/-- The formula that is read, unless something is open. -/
def result? : State → Option Formula
  | .operator d f [] => some (joined .or d f)
  | _ => none

def parse? (s : List Symbol) : Option Formula :=
  (s.foldlM step (.operand .start [])).bind result?

/-! ## Everything in the grammar is read -/

/-- How the symbols of a formula are read, by how tight they hold together. -/
def ReadAs : Strength → List Symbol → Formula → Prop
  | .primary, s, f | .negation, s, f => ∀ fr outer,
    s.foldlM step (.operand fr outer) = some (.operator fr.disjuncts (fr.conjunction f) outer)
  | .conjunction, s, f => ∀ d outer,
    s.foldlM step (.operand ⟨d, none, 0⟩ outer) = some (.operator d f outer)
  | .disjunction, s, f => ∀ outer, ∃ d g, joined .or d g = f ∧
    s.foldlM step (.operand .start outer) = some (.operator d g outer)

theorem readAs_of_parses {k : Strength} {s : List Symbol} {f : Formula} (h : Parses k s f) :
    ReadAs k s f := by
  induction h with
  | atom word => exact fun fr outer => rfl
  | parenthesized h ih =>
    intro fr outer
    obtain ⟨d, g, rfl, hs⟩ := ih (fr :: outer)
    simp only [List.cons_append, List.foldlM_cons, List.foldlM_append, step]
    show (List.foldlM step (.operand .start (fr :: outer)) _ >>= _) = _
    rw [hs]
    rfl
  | primary h ih => exact ih
  | not h ih =>
    intro fr outer
    rw [List.foldlM_cons]
    exact ih { fr with negations := fr.negations + 1 } outer
  | negation h ih => exact fun d outer => ih ⟨d, none, 0⟩ outer
  | and hf hg ihf ihg =>
    intro d outer
    rw [List.foldlM_append, ihf d outer]
    exact ihg ⟨d, some _, 0⟩ outer
  | conjunction h ih => exact fun outer => ⟨none, _, rfl, ih none outer⟩
  | or hf hg ihf ihg =>
    intro outer
    obtain ⟨d, g, rfl, hs⟩ := ihf outer
    refine ⟨some (joined .or d g), _, rfl, ?_⟩
    rw [List.foldlM_append, hs]
    exact ihg (some (joined .or d g)) outer

/-! ## Everything that is read is in the grammar -/

/-- The symbols in front of an operand that come from a formula and the operator behind it. -/
def Before (op : Keyword) (k : Strength) : Option Formula → List Symbol → Prop
  | none, s => s = []
  | some f, s => ∃ t, s = t ++ [.keyword op] ∧ Parses k t f

theorem Before.or {d : Option Formula} {s t : List Symbol} {f : Formula}
    (h : Before .or .disjunction d s) (hf : Parses .conjunction t f) :
    Parses .disjunction (s ++ t) (joined .or d f) := by
  cases d with
  | none =>
    obtain rfl : s = [] := h
    exact .conjunction hf
  | some g =>
    obtain ⟨u, rfl, hg⟩ := h
    rw [List.append_assoc]
    exact .or hg hf

theorem Before.and {c : Option Formula} {s t : List Symbol} {f : Formula}
    (h : Before .and .conjunction c s) (hf : Parses .negation t f) :
    Parses .conjunction (s ++ t) (joined .and c f) := by
  cases c with
  | none =>
    obtain rfl : s = [] := h
    exact .negation hf
  | some g =>
    obtain ⟨u, rfl, hg⟩ := h
    rw [List.append_assoc]
    exact .and hg hf

theorem parses_iterate_not {s : List Symbol} {f : Formula} (h : Parses .negation s f) (n : Nat) :
    Parses .negation (List.replicate n (.keyword .not) ++ s) (Formula.not^[n] f) := by
  induction n generalizing s f with
  | zero => exact h
  | succ n ih =>
    rw [List.replicate_succ', List.append_assoc]
    exact ih (.not h)

/-- The symbols that lead to a frame. -/
def Frame.LeadsTo (fr : Frame) (s : List Symbol) : Prop :=
  ∃ ds cs, s = ds ++ (cs ++ List.replicate fr.negations (.keyword .not)) ∧
    Before .or .disjunction fr.disjuncts ds ∧ Before .and .conjunction fr.conjuncts cs

/-- The symbols that lead to open frames. -/
def OuterLeadsTo : List Frame → List Symbol → Prop
  | [], s => s = []
  | fr :: outer, s => ∃ os fs, s = os ++ (fs ++ [.opening]) ∧ OuterLeadsTo outer os ∧ fr.LeadsTo fs

/-- The symbols that lead to a state. -/
def State.LeadsTo : State → List Symbol → Prop
  | .operand fr outer, s => ∃ os fs, s = os ++ fs ∧ OuterLeadsTo outer os ∧ fr.LeadsTo fs
  | .operator d f outer, s => ∃ os ds cs, s = os ++ (ds ++ cs) ∧ OuterLeadsTo outer os ∧
    Before .or .disjunction d ds ∧ Parses .conjunction cs f

/-- A primary in a frame completes a conjunction. -/
theorem Frame.LeadsTo.operator {fr : Frame} {fs os ps : List Symbol} {outer : List Frame}
    {f : Formula} (h : fr.LeadsTo fs) (ho : OuterLeadsTo outer os) (hf : Parses .primary ps f) :
    (State.operator fr.disjuncts (fr.conjunction f) outer).LeadsTo (os ++ (fs ++ ps)) := by
  obtain ⟨ds, cs, rfl, hd, hc⟩ := h
  refine ⟨os, ds, cs ++ (List.replicate fr.negations (.keyword .not) ++ ps), ?_, ho, hd, ?_⟩
  · simp only [List.append_assoc]
  · exact hc.and (parses_iterate_not (.primary hf) fr.negations)

theorem State.LeadsTo.step {st st' : State} {s : List Symbol} {a : Symbol} (h : st.LeadsTo s)
    (hst : step st a = some st') : st'.LeadsTo (s ++ [a]) := by
  cases st with
  | operand fr outer =>
    obtain ⟨os, fs, rfl, ho, hfr⟩ := h
    rw [List.append_assoc]
    cases a with
    | operand word =>
      cases hst
      exact hfr.operator ho (.atom word)
    | opening =>
      cases hst
      exact ⟨os ++ (fs ++ [.opening]), [], by simp, ⟨os, fs, rfl, ho, hfr⟩, ⟨[], [], rfl, rfl, rfl⟩⟩
    | closing => cases hst
    | keyword k =>
      cases k with
      | and => cases hst
      | or => cases hst
      | not =>
        cases hst
        obtain ⟨ds, cs, rfl, hd, hc⟩ := hfr
        refine ⟨os, _, rfl, ho, ds, cs, ?_, hd, hc⟩
        simp [List.replicate_succ']
  | operator d f outer =>
    obtain ⟨os, ds, cs, rfl, ho, hd, hf⟩ := h
    cases a with
    | operand word => cases hst
    | opening => cases hst
    | closing =>
      cases outer with
      | nil => cases hst
      | cons fr outer =>
        cases hst
        obtain ⟨os, fs, rfl, ho, hfr⟩ := ho
        have := hfr.operator ho (.parenthesized (hd.or hf))
        simpa using this
    | keyword k =>
      cases k with
      | not => cases hst
      | and =>
        cases hst
        exact ⟨os, ds ++ (cs ++ [.keyword .and]), by simp, ho, ds, cs ++ [.keyword .and], by simp,
          hd, cs, rfl, hf⟩
      | or =>
        cases hst
        exact ⟨os, ds ++ cs ++ [.keyword .or], by simp, ho, ds ++ cs ++ [.keyword .or], [], by simp,
          ⟨ds ++ cs, rfl, hd.or hf⟩, rfl⟩

theorem State.LeadsTo.run {st st' : State} {s t : List Symbol} (h : st.LeadsTo s)
    (hst : t.foldlM Formula.step st = some st') : st'.LeadsTo (s ++ t) := by
  induction t generalizing st s with
  | nil =>
    cases hst
    simpa using h
  | cons a t ih =>
    rw [List.foldlM_cons] at hst
    obtain ⟨st₁, h₁, hst⟩ := Option.bind_eq_some_iff.1 hst
    simpa using ih (h.step h₁) hst

/-- The reader gives just what the grammar allows. -/
theorem parse?_eq_some_iff {s : List Symbol} {f : Formula} :
    parse? s = some f ↔ Parses .disjunction s f := by
  constructor
  · intro h
    obtain ⟨st, hst, hf⟩ := Option.bind_eq_some_iff.1 h
    have hstart : (State.operand .start []).LeadsTo [] :=
      ⟨[], [], rfl, rfl, [], [], rfl, rfl, rfl⟩
    have hlead := hstart.run hst
    rw [List.nil_append] at hlead
    cases st with
    | operand fr outer => cases hf
    | operator d g outer =>
      cases outer with
      | cons fr outer => cases hf
      | nil =>
        cases hf
        obtain ⟨os, ds, cs, rfl, ho, hd, hg⟩ := hlead
        obtain rfl : os = [] := ho
        exact hd.or hg
  · intro h
    obtain ⟨d, g, rfl, hs⟩ := readAs_of_parses h []
    rw [parse?, hs]
    rfl

end Formula

/-- A text has no more than one reading. -/
theorem Parses.unique {s : List Symbol} {f g : Formula} (hf : Parses .disjunction s f)
    (hg : Parses .disjunction s g) : f = g :=
  Option.some.inj ((Formula.parse?_eq_some_iff.2 hf).symm.trans (Formula.parse?_eq_some_iff.2 hg))

end SqlAccess

import SqlAccess.Proofs.Where.Token

/-!
# Steps that could be left out

A condition that is blank, a step that is switched off and a group in which no condition is left
are as if never written. `Step.allPruned` deletes them at any depth: none of them is left
(`Step.allTidy_allPruned`), steps without any stay as they are (`Step.allPruned_of_allTidy`), and
what is left builds the same clause (`Step.runAll_allPruned`). Unless it clears a clause, what is
left appends something (`Step.tokens_eq_nil_iff_pruned`). With what a single step does to the tokens
this describes the clauses that steps build (`Step.tokens_runAll_pruned`).
-/

namespace SqlAccess

/-! ## What is left out -/

/-- The condition is absent, or nothing is left of it once its ends are trimmed. -/
def BlankCondition (condition : Option String) : Prop :=
  ∀ s ∈ condition, Text.trimmed s = ""

instance (condition : Option String) : Decidable (BlankCondition condition) :=
  inferInstanceAs (Decidable (∀ s ∈ condition, Text.trimmed s = ""))

/-- The flag of the step is not set, or one of its flags is not, or its flags are not given. -/
def Guard.isOff : Guard → Bool
  | always => false
  | flag enabled => !enabled
  | every none => true
  | every (some flags) => flags.contains false

namespace Step

mutual

/-- The conditions of a step, at any depth. -/
def conditions : Step → List (Option String)
  | .condition _ c _ _ => [c]
  | .group _ cs _ _ _ => cs
  | .nested _ steps _ _ => allConditions steps
  | .clear => []

def allConditions : List Step → List (Option String)
  | [] => []
  | step :: rest => conditions step ++ allConditions rest

end

mutual

/-- The step without what can be left out, unless that is the step itself. -/
def pruned : Step → Option Step
  | .condition guard c negate useOr =>
    if guard.isOff ∨ BlankCondition c then none else some (.condition guard c negate useOr)
  | .group guard cs negate useOr innerOr =>
    let kept := cs.filter (¬ BlankCondition ·)
    if guard.isOff ∨ kept = [] then none else some (.group guard kept negate useOr innerOr)
  | .nested guard steps negate useOr =>
    let kept := allPruned steps
    if guard.isOff ∨ allConditions kept = [] then none else some (.nested guard kept negate useOr)
  | .clear => some .clear

def allPruned : List Step → List Step
  | [] => []
  | step :: rest => (pruned step).toList ++ allPruned rest

end

mutual

/-- Nothing in the step can be left out. -/
def Tidy : Step → Prop
  | .condition guard c _ _ => guard.isOff = false ∧ ¬ BlankCondition c
  | .group guard cs _ _ _ => guard.isOff = false ∧ cs ≠ [] ∧ ∀ c ∈ cs, ¬ BlankCondition c
  | .nested guard steps _ _ => guard.isOff = false ∧ allConditions steps ≠ [] ∧ AllTidy steps
  | .clear => True

def AllTidy : List Step → Prop
  | [] => True
  | step :: rest => Tidy step ∧ AllTidy rest

end

end Step

/-! ## What is left -/

theorem Guard.isMet_eq (guard : Guard) : guard.isMet = !guard.isOff := by
  cases guard with
  | always => rfl
  | flag enabled => simp [isMet, isOff]
  | every flags =>
    cases flags with
    | none => rfl
    | some flags =>
      show flags.all id = !flags.contains false
      induction flags with
      | nil => rfl
      | cons f fs ih => cases f <;> simp_all

namespace Step

theorem allConditions_append (steps rest : List Step) :
    allConditions (steps ++ rest) = allConditions steps ++ allConditions rest := by
  induction steps with
  | nil => rfl
  | cons step steps ih =>
    rw [List.cons_append, allConditions, allConditions, ih, List.append_assoc]

theorem allTidy_append {steps rest : List Step} :
    AllTidy (steps ++ rest) ↔ AllTidy steps ∧ AllTidy rest := by
  induction steps with
  | nil => simp [AllTidy]
  | cons step steps ih =>
    rw [List.cons_append, AllTidy, AllTidy, ih, and_assoc]

mutual

theorem tidy_pruned (step : Step) : AllTidy (pruned step).toList := by
  cases step with
  | condition guard c negate useOr =>
    rw [pruned]
    split
    · trivial
    · rename_i h
      rw [not_or, Bool.not_eq_true] at h
      exact ⟨h, trivial⟩
  | group guard cs negate useOr innerOr =>
    rw [pruned]
    split
    · trivial
    · rename_i h
      rw [not_or, Bool.not_eq_true] at h
      refine ⟨⟨h.1, h.2, ?_⟩, trivial⟩
      intro c hc
      exact of_decide_eq_true (List.mem_filter.1 hc).2
  | nested guard steps negate useOr =>
    rw [pruned]
    split
    · trivial
    · rename_i h
      rw [not_or, Bool.not_eq_true] at h
      exact ⟨⟨h.1, h.2, allTidy_allPruned steps⟩, trivial⟩
  | clear => exact ⟨trivial, trivial⟩

theorem allTidy_allPruned (steps : List Step) : AllTidy (allPruned steps) := by
  cases steps with
  | nil => trivial
  | cons step rest =>
    rw [allPruned, allTidy_append]
    exact ⟨tidy_pruned step, allTidy_allPruned rest⟩

end

mutual

theorem pruned_of_tidy (step : Step) (h : Tidy step) : pruned step = some step := by
  cases step with
  | condition guard c negate useOr =>
    rw [Tidy] at h
    simp [pruned, h]
  | group guard cs negate useOr innerOr =>
    rw [Tidy] at h
    have hkept : cs.filter (¬ BlankCondition ·) = cs := by
      rw [List.filter_eq_self]
      intro c hc
      exact decide_eq_true (h.2.2 c hc)
    rw [pruned, hkept]
    simp [h.1, h.2.1]
  | nested guard steps negate useOr =>
    rw [Tidy] at h
    rw [pruned, allPruned_of_allTidy steps h.2.2]
    simp [h.1, h.2.1]
  | clear => rfl

/-- Where nothing can be left out, nothing is. -/
theorem allPruned_of_allTidy (steps : List Step) (h : AllTidy steps) :
    allPruned steps = steps := by
  cases steps with
  | nil => rfl
  | cons step rest =>
    rw [AllTidy] at h
    rw [allPruned, pruned_of_tidy step h.1, allPruned_of_allTidy rest h.2]
    rfl

end

/-! ## What is left builds the same clause -/

theorem nonBlank_eq_none_iff {c : Option String} :
    WhereClause.nonBlank c = none ↔ BlankCondition c := by
  rw [WhereClause.nonBlank, Option.filter_eq_none_iff, BlankCondition]
  simp [Text.trimmed_eq_empty_iff]

theorem addGroup_filter (w : WhereClause) (cs : List (Option String))
    (negate useOr innerOr : Bool) :
    w.addGroup (cs.filter (¬ BlankCondition ·)) negate useOr innerOr =
      w.addGroup cs negate useOr innerOr := by
  have hparts : (cs.filter (¬ BlankCondition ·)).filterMap WhereClause.nonBlank =
      cs.filterMap WhereClause.nonBlank := by
    rw [List.filterMap_filter]
    congr 1
    funext c
    by_cases hc : BlankCondition c
    · simp [hc, nonBlank_eq_none_iff.2 hc]
    · simp [hc]
  rw [WhereClause.addGroup, hparts]
  rfl

theorem addGroup_nil (w : WhereClause) (negate useOr innerOr : Bool) :
    w.addGroup [] negate useOr innerOr = w :=
  rfl

theorem addClause_empty (w : WhereClause) (negate useOr : Bool) :
    w.addClause .empty negate useOr = w :=
  rfl

mutual

theorem run_of_conditions_eq_nil (step : Step) (h : conditions step = []) :
    run .empty step = .empty := by
  cases step with
  | condition guard c negate useOr => cases h
  | group guard cs negate useOr innerOr =>
    rw [conditions] at h
    rw [run, h, addGroup_nil, ite_self]
  | nested guard steps negate useOr =>
    rw [run, runAll_of_allConditions_eq_nil steps h, addClause_empty, ite_self]
  | clear => rfl

/-- Without conditions nothing is built. -/
theorem runAll_of_allConditions_eq_nil (steps : List Step) (h : allConditions steps = []) :
    runAll .empty steps = .empty := by
  cases steps with
  | nil => rfl
  | cons step rest =>
    rw [allConditions, List.append_eq_nil_iff] at h
    rw [runAll, run_of_conditions_eq_nil step h.1, runAll_of_allConditions_eq_nil rest h.2]

end

theorem runAll_append (w : WhereClause) (steps rest : List Step) :
    runAll w (steps ++ rest) = runAll (runAll w steps) rest := by
  induction steps generalizing w with
  | nil => rfl
  | cons step steps ih => exact ih (run w step)

mutual

theorem runAll_pruned (w : WhereClause) (step : Step) :
    runAll w (pruned step).toList = run w step := by
  cases step with
  | condition guard c negate useOr =>
    rw [pruned, run, Guard.isMet_eq]
    cases hg : guard.isOff with
    | true => rfl
    | false =>
      by_cases hc : BlankCondition c
      · simp [hc, WhereClause.add, nonBlank_eq_none_iff.2 hc, runAll]
      · simp [hc, runAll, run, Guard.isMet_eq, hg]
  | group guard cs negate useOr innerOr =>
    -- the group drops its blank conditions itself, so it may be run on those that are kept
    rw [pruned, run, Guard.isMet_eq, ← addGroup_filter]
    generalize cs.filter (¬ BlankCondition ·) = kept
    cases hg : guard.isOff with
    | true => rfl
    | false =>
      by_cases hkept : kept = []
      · simp [hkept, runAll, addGroup_nil]
      · simp [hkept, runAll, run, Guard.isMet_eq, hg]
  | nested guard steps negate useOr =>
    rw [pruned, run, Guard.isMet_eq, ← runAll_allPruned .empty steps]
    generalize allPruned steps = kept
    cases hg : guard.isOff with
    | true => rfl
    | false =>
      -- a nested clause is dropped for its text, and left out for want of conditions
      by_cases hkept : allConditions kept = []
      · simp [hkept, runAll, runAll_of_allConditions_eq_nil kept hkept, addClause_empty]
      · simp [hkept, runAll, run, Guard.isMet_eq, hg]
  | clear => rfl

/-- What is left of the steps builds the clause that the steps build. -/
theorem runAll_allPruned (w : WhereClause) (steps : List Step) :
    runAll w (allPruned steps) = runAll w steps := by
  cases steps with
  | nil => rfl
  | cons step rest =>
    rw [allPruned, runAll_append, runAll_pruned w step, runAll_allPruned _ rest, runAll]

end

/-! ## What is left appends something -/

theorem allConditions_pruned_eq_nil_iff {step : Step} (h : step ≠ .clear) :
    allConditions (pruned step).toList = [] ↔ pruned step = none := by
  cases step with
  | condition guard c negate useOr =>
    rw [pruned]
    split <;> simp [allConditions, conditions]
  | group guard cs negate useOr innerOr =>
    rw [pruned]
    split
    · simp [allConditions]
    · rename_i hkept
      rw [not_or] at hkept
      simpa [allConditions, conditions] using hkept.2
  | nested guard steps negate useOr =>
    rw [pruned]
    split
    · simp [allConditions]
    · rename_i hkept
      rw [not_or] at hkept
      simpa [allConditions, conditions] using hkept.2
  | clear => exact absurd rfl h

mutual

theorem pruned_eq_none_iff (step : Step) (h : step.clearFree = true) :
    pruned step = none ↔ step.appended? = none := by
  cases step with
  | condition guard c negate useOr =>
    rw [pruned, appended?, Guard.isMet_eq]
    cases guard.isOff <;> simp [nonBlank_eq_none_iff]
  | group guard cs negate useOr innerOr =>
    rw [pruned, appended?, Guard.isMet_eq]
    cases guard.isOff <;> simp [nonBlank_eq_none_iff]
  | nested guard steps negate useOr =>
    rw [clearFree] at h
    rw [pruned, appended?_nested h, Guard.isMet_eq]
    have hsteps := allConditions_allPruned_eq_nil_iff steps h
    cases guard.isOff <;> simp [hsteps]
  | clear => cases h

theorem allConditions_allPruned_eq_nil_iff (steps : List Step) (h : allClearFree steps = true) :
    allConditions (allPruned steps) = [] ↔ steps.filterMap appended? = [] := by
  cases steps with
  | nil => simp [allPruned, allConditions]
  | cons step rest =>
    rw [allClearFree, Bool.and_eq_true] at h
    rw [allPruned, allConditions_append, List.append_eq_nil_iff,
      allConditions_pruned_eq_nil_iff (ne_clear_of_clearFree h.1), pruned_eq_none_iff step h.1,
      allConditions_allPruned_eq_nil_iff rest h.2, List.filterMap_cons]
    cases step.appended? <;> simp

end

theorem tokens_eq_nil_iff_pruned {step : Step} (h : step.clearFree = true) :
    (run .empty step).tokens = [] ↔ pruned step = none := by
  rw [pruned_eq_none_iff step h, tokens_run_empty (ne_clear_of_clearFree h)]
  cases step.appended? <;> simp

/-! ## The clause of any steps -/

/-- Nothing that can be left out is left, what is left builds the same clause of any other, and the
clause that steps build

* has no text just if it has no tokens, and else has its keyword in front,
* has no blank token,
* is kept by each step but `clear`, which appends one token at most: the one it appends to an empty
  clause, behind its connector unless the clause is empty. If nothing in the step clears a clause,
  that is no token only if the step is left out. -/
theorem tokens_runAll_pruned (steps : List Step) :
    AllTidy (allPruned steps) ∧
      (∀ w, runAll w (allPruned steps) = runAll w steps) ∧
      let w := runAll .empty steps
      (w.body = "" ↔ w.tokens = []) ∧ (w.text = "" ↔ w.tokens = []) ∧
      (toString w = "" ↔ w.tokens = []) ∧
      (w.tokens ≠ [] → w.text = "WHERE " ++ w.body) ∧
      (∀ token ∈ w.tokens, Text.trimmed token ≠ "") ∧
      ∀ step ≠ .clear,
        (run .empty step).tokens.length ≤ 1 ∧
        (step.clearFree = true → ((run .empty step).tokens = [] ↔ pruned step = none)) ∧
        (run w step).tokens = w.tokens ++ (run .empty step).tokens.map fun token =>
          if w.tokens = [] then token else WhereClause.connector step.useOr ++ " " ++ token := by
  refine ⟨allTidy_allPruned steps, fun w => runAll_allPruned w steps, ?_⟩
  intro w
  have hvisible : w.Visible := visible_runAll WhereClause.visible_empty steps
  refine ⟨hvisible.body_eq_empty_iff, w.text_eq_empty_iff, w.text_eq_empty_iff, w.text_of_ne_nil,
    ?_, ?_⟩
  · intro token htoken hblank
    rw [Text.trimmed_eq_empty_iff, hvisible token htoken] at hblank
    cases hblank
  · intro step hclear
    exact ⟨length_tokens_run_empty hclear, tokens_eq_nil_iff_pruned, tokens_run hclear w⟩

example :
    let steps : List Step := [
      .condition (.every none) (some "a = 1") false false,
      .nested .always [.condition .always (some " ") true false, .clear] false true,
      .group (.every (some [true, true])) [none, some "b = 2", some ""] true true false,
      .condition (.flag true) (some "c = 3") false true]
    (runAll .empty (allPruned steps)).tokens = ["NOT (b = 2)", "OR c = 3"] ∧
      allConditions (allPruned steps) = [some "b = 2", some "c = 3"] := by
  decide

end Step

end SqlAccess

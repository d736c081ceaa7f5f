import Mathlib.Data.List.Forall2
import SqlAccess.Proofs.SqlText.Settled
import SqlAccess.Proofs.Where.Token

/-!
# Placeholders of clauses

A condition is closed if, after a blank, a placeholder put behind it is found there. Closed
conditions keep their placeholders in a clause, however they are joined, negated and nested: those
of the clause's text are those of the conditions that got into it, in that order
(`Step.names_scan_text`).
-/

namespace SqlAccess

variable {marker : Char}

/-- A placeholder put behind the condition and a blank is found beside its own. -/
def ClosedCondition (marker : Char) (c : String) : Prop :=
  FindsBehind marker (c ++ " ") c

instance (marker : Char) (c : String) : Decidable (ClosedCondition marker c) :=
  inferInstanceAs (Decidable (FindsBehind marker (c ++ " ") c))

/-- The names of the placeholders of a text. -/
def scanNames (marker : Char) (c : String) : List String :=
  (scan c marker).map (·.name)

/-! ## Entries -/

/-- The entry is settled, with placeholders of the given names. -/
def EntryYields (marker : Char) (e : Entry) (ns : List String) : Prop :=
  Yields marker e.body.toList ns

section
variable (hm : IsMarker marker) (hp : marker ≠ ')')
include hm hp

theorem EntryYields.negated {e : Entry} {ns : List String} (h : EntryYields marker e ns) :
    Yields marker e.negated.toList ns := by
  rw [Entry.negated]
  split
  · have hnot := yields_word (s := "NOT".toList) hm hp (List.all_eq_true.1 (by decide))
    simpa using hnot.join h
  · exact h

theorem EntryYields.connected {e : Entry} {ns : List String} (h : EntryYields marker e ns) :
    Yields marker e.connected.toList ns := by
  have hword : Yields marker (WhereClause.connector e.useOr).toList [] := by
    refine yields_word hm hp (List.all_eq_true.1 ?_)
    cases e.useOr <;> decide
  have := hword.join (h.negated hm hp)
  simpa [Entry.connected] using this

/-- The placeholders of entries, put one behind the other. -/
theorem yields_levelText {es : List Entry} {names : List (List String)}
    (h : List.Forall₂ (EntryYields marker) es names) (hne : es ≠ []) :
    Yields marker (levelText es) names.flatten := by
  cases h with
  | nil => exact absurd rfl hne
  | @cons e ns es names he hes =>
    suffices hfrom : ∀ {s ns}, Yields marker s ns → Yields marker
        (s ++ es.flatMap fun e => ' ' :: e.connected.toList) (ns ++ names.flatten) from
      hfrom (he.negated hm hp)
    clear he hne
    induction hes with
    | nil => exact fun hs => by simpa using hs
    | @cons e ns es names he hes ih =>
      intro s ns' hs
      have := ih (hs.join (he.connected hm hp))
      simpa using this

end

/-! ## Steps -/

namespace Step

theorem yields_conditions (hm : IsMarker marker) (hp : marker ≠ ')') {cs : List String}
    (h : ∀ c ∈ cs, ClosedCondition marker c) (innerOr : Bool) :
    List.Forall₂ (EntryYields marker)
      (cs.map (⟨·, false, innerOr⟩)) (cs.map (scanNames marker)) := by
  rw [List.forall₂_map_left_iff, List.forall₂_map_right_iff, List.forall₂_same]
  exact fun c hc => yields_of_findsBehind hm hp (h c hc)

mutual

/-- A step appends a text with the placeholders of its conditions, or there are none. -/
theorem yields_step (hm : IsMarker marker) (ho : marker ≠ '(') (hp : marker ≠ ')') (step : Step)
    (hfree : step.clearFree = true) (hclosed : ∀ c ∈ step.emitted, ClosedCondition marker c) :
    (step.appended? = none ∧ step.emitted.flatMap (scanNames marker) = []) ∨
      ∃ e, step.appended? = some e ∧
        EntryYields marker e (step.emitted.flatMap (scanNames marker)) := by
  cases step with
  | condition guard c negate useOr =>
    rw [appended?]
    rw [emitted] at hclosed ⊢
    by_cases hg : guard.isMet = true
    · simp only [if_pos hg] at hclosed ⊢
      cases hc : WhereClause.nonBlank c with
      | none => exact .inl ⟨rfl, rfl⟩
      | some c =>
        refine .inr ⟨_, rfl, ?_⟩
        have hc : ClosedCondition marker c := hclosed c (by simp [hc])
        simpa [EntryYields, scanNames] using yields_of_findsBehind hm hp hc
    · simp [hg]
  | group guard cs negate useOr innerOr =>
    rw [appended?]
    rw [emitted] at hclosed ⊢
    by_cases hg : guard.isMet = true
    · rw [if_pos hg] at hclosed ⊢
      by_cases hcs : cs.filterMap WhereClause.nonBlank = []
      · exact .inl ⟨by simp [hcs], by simp [hcs]⟩
      · refine .inr ⟨_, if_pos ⟨hg, hcs⟩, ?_⟩
        have hconditions := yields_conditions hm hp hclosed innerOr
        rw [EntryYields, toList_groupBody, List.flatMap_def]
        exact (yields_levelText hm hp hconditions (by simpa using hcs)).parenthesized hm ho hp
    · simp [hg]
  | nested guard steps negate useOr =>
    rw [clearFree] at hfree
    rw [appended?_nested hfree]
    rw [emitted] at hclosed ⊢
    by_cases hg : guard.isMet = true
    · rw [if_pos hg] at hclosed ⊢
      obtain ⟨names, hsteps, hnames⟩ := yields_steps hm ho hp steps hfree hclosed
      by_cases hes : steps.filterMap appended? = []
      · rw [hes, List.forall₂_nil_left_iff] at hsteps
        exact .inl ⟨if_neg fun h => h.2 hes, by rw [← hnames, hsteps]; rfl⟩
      · refine .inr ⟨_, if_pos ⟨hg, hes⟩, ?_⟩
        rw [EntryYields, toList_parenthesized_body hfree, ← hnames]
        exact (yields_levelText hm hp hsteps hes).parenthesized hm ho hp
    · simp [hg]
  | clear => cases hfree

/-- The entries of steps have the placeholders of the conditions. -/
theorem yields_steps (hm : IsMarker marker) (ho : marker ≠ '(') (hp : marker ≠ ')')
    (steps : List Step) (hfree : allClearFree steps = true)
    (hclosed : ∀ c ∈ allEmitted steps, ClosedCondition marker c) :
    ∃ names, List.Forall₂ (EntryYields marker) (steps.filterMap appended?) names ∧
      names.flatten = (allEmitted steps).flatMap (scanNames marker) := by
  cases steps with
  | nil => exact ⟨[], .nil, rfl⟩
  | cons step rest =>
    rw [allClearFree, Bool.and_eq_true] at hfree
    rw [allEmitted] at hclosed ⊢
    have hstep :=
      yields_step hm ho hp step hfree.1 fun c hc => hclosed c (List.mem_append_left _ hc)
    obtain ⟨names, hrest, hnames⟩ :=
      yields_steps hm ho hp rest hfree.2 fun c hc => hclosed c (List.mem_append_right _ hc)
    rw [List.filterMap_cons, List.flatMap_append]
    rcases hstep with ⟨he, hnone⟩ | ⟨e, he, hbody⟩
    · exact ⟨names, by rwa [he], by rw [hnames, hnone, List.nil_append]⟩
    · exact ⟨_ :: names, by rw [he]; exact .cons hbody hrest, by rw [List.flatten_cons, hnames]⟩

end

/-- The placeholders of a clause are those of the conditions in it, in the order in which they got
into it. -/
theorem names_scan_text (hm : IsMarker marker) (ho : marker ≠ '(') (hp : marker ≠ ')')
    {steps : List Step} (hfree : allClearFree steps = true)
    (hclosed : ∀ c ∈ allEmitted steps, ClosedCondition marker c) :
    scanNames marker (runAll .empty steps).text =
      (allEmitted steps).flatMap (scanNames marker) := by
  obtain ⟨names, hsteps, hnames⟩ := yields_steps hm ho hp steps hfree hclosed
  rw [runAll_empty hfree, ← hnames]
  cases hes : steps.filterMap appended? with
  | nil =>
    rw [hes, List.forall₂_nil_left_iff] at hsteps
    rw [hsteps]
    show scanNames marker "" = []
    rw [scanNames, scan_empty, List.map_nil]
  | cons e es =>
    rw [hes] at hsteps
    -- the keyword is one more settled text in front
    have hwhere := yields_word (s := "WHERE".toList) hm hp (List.all_eq_true.1 (by decide))
    have hclause := hwhere.join (yields_levelText hm hp hsteps (List.cons_ne_nil _ _))
    rw [List.nil_append, ← toList_body] at hclause
    have hnonempty : (WhereClause.ofEntries (e :: es)).isEmpty = false := by
      rw [WhereClause.isEmpty, WhereClause.tokens_ofEntries_cons]
      rfl
    have htext : (WhereClause.ofEntries (e :: es)).text.toList =
        "WHERE".toList ++ ' ' :: (WhereClause.ofEntries (e :: es)).body.toList := by
      rw [WhereClause.text, hnonempty]
      simp
    rw [scanNames, map_name_scan, htext]
    exact hclause.names_eq

theorem names_scan_text_nested_group :
    let steps : List Step := [
      .condition .always (some "id = @id") true true,
      .condition .always (some " ") false false,
      .condition (.flag false) (some "x = @x") false false,
      .nested (.every (some [true])) [
        .nested .always [.condition .always none false true] true false,
        .group .always [some "a = @a -- @c\n", none, some "b = 'it''s @d' || @b"] true false true,
        .condition .always (some "d = $t$ @e $t$") false true,
        .condition .always (some "a = @a") false false] true false]
    IsMarker '@' ∧ allClearFree steps = true ∧
      (∀ c ∈ allEmitted steps, ClosedCondition '@' c) ∧
      (runAll .empty steps).text =
        "WHERE NOT id = @id AND NOT (NOT (a = @a -- @c\n OR b = 'it''s @d' || @b) OR " ++
          "d = $t$ @e $t$ AND a = @a)" ∧
      scanNames '@' (runAll .empty steps).text = ["id", "a", "b", "a"] := by
  intro steps
  have hm : IsMarker '@' := ⟨by decide, by decide, by decide, by decide⟩
  have hfree : allClearFree steps = true := by decide
  have hclosed : ∀ c ∈ allEmitted steps, ClosedCondition '@' c := by decide +kernel
  exact ⟨hm, hfree, hclosed, by decide +kernel,
    (names_scan_text hm (by decide) (by decide) hfree hclosed).trans (by decide +kernel)⟩

end Step

end SqlAccess

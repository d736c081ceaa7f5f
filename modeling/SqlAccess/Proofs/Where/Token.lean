import Mathlib.Data.List.TakeWhile
import SqlAccess.Proofs.Where.Entry

/-!
# Tokens of clauses

A step other than `clear` leaves the tokens of a clause as they are and appends one at most, which
is what it would be on an empty clause but for the connector of the step (`Step.tokens_run`). No
token that a step appends is blank, so the clauses that steps build are visible
(`Step.visible_runAll`): they have a text unless they have no tokens
(`WhereClause.Visible.body_eq_empty_iff`).
-/

namespace SqlAccess

/-! ## Blank texts -/

namespace Text

theorem trimmed_eq_empty_iff {s : String} : trimmed s = "" ↔ isBlankText s = true := by
  unfold trimmed isBlankText
  rw [String.ofList_eq_empty_iff, List.reverse_eq_nil_iff, List.dropWhile_eq_nil_iff,
    List.all_eq_true]
  constructor
  · intro h c hc
    rw [← List.takeWhile_append_dropWhile (p := isBlank) (l := s.toList)] at hc
    rcases List.mem_append.1 hc with hc | hc
    · exact List.mem_takeWhile_imp hc
    · exact h c (List.mem_reverse.2 hc)
  · intro h c hc
    exact h c ((List.dropWhile_sublist _).mem (List.mem_reverse.1 hc))

theorem isBlankText_append (s t : String) :
    isBlankText (s ++ t) = (isBlankText s && isBlankText t) := by
  simp [isBlankText]

theorem isBlankText_parenthesized (s : String) :
    isBlankText (WhereClause.parenthesized s) = false := by
  unfold WhereClause.parenthesized
  rw [isBlankText_append, isBlankText_append, show isBlankText "(" = false by decide]
  rfl

end Text

/-! ## What a step appends -/

namespace Step

open WhereClause

/-- The connector of a step is `OR`. -/
def useOr : Step → Bool
  | .condition _ _ _ useOr => useOr
  | .group _ _ _ useOr _ => useOr
  | .nested _ _ _ useOr => useOr
  | .clear => false

/-- A step appends a condition that is not blank, or something in parentheses. -/
theorem appended?_cases {step : Step} {e : Entry} (h : step.appended? = some e) :
    e.useOr = step.useOr ∧
      ((∃ c, nonBlank c = some e.body) ∨ ∃ inner, e.body = parenthesized inner) := by
  cases step with
  | condition guard c negate useOr =>
    rw [appended?] at h
    split at h
    · obtain ⟨body, hbody, rfl⟩ := Option.map_eq_some_iff.1 h
      exact ⟨rfl, .inl ⟨c, hbody⟩⟩
    · cases h
  | group guard cs negate useOr innerOr =>
    rw [appended?] at h
    split at h
    · cases h
      exact ⟨rfl, .inr ⟨_, rfl⟩⟩
    · cases h
  | nested guard steps negate useOr =>
    rw [appended?] at h
    split at h
    · cases h
      exact ⟨rfl, .inr ⟨_, rfl⟩⟩
    · cases h
  | clear => cases h

theorem isBlankText_body {step : Step} {e : Entry} (h : step.appended? = some e) :
    Text.isBlankText e.body = false := by
  rcases (appended?_cases h).2 with ⟨c, hc⟩ | ⟨inner, hinner⟩
  · simpa using (Option.filter_eq_some_iff.1 hc).2
  · rw [hinner]
    exact Text.isBlankText_parenthesized inner

theorem tokens_run_empty {step : Step} (h : step ≠ .clear) :
    (run .empty step).tokens = (step.appended?.map (·.negated)).toList := by
  rw [run_eq h]
  cases step.appended? with
  | none => rfl
  | some e => exact tokens_append .empty e

/-- What a step appends to a clause is what it appends to an empty one, behind its connector unless
the clause is empty itself. -/
theorem tokens_run {step : Step} (h : step ≠ .clear) (w : WhereClause) :
    (run w step).tokens = w.tokens ++ (run .empty step).tokens.map fun token =>
      if w.tokens = [] then token else connector step.useOr ++ " " ++ token := by
  rw [tokens_run_empty h, run_eq h]
  cases happ : step.appended? with
  | none => simp
  | some e =>
    show (w.append e).tokens = _
    rw [tokens_append, Entry.connected, (appended?_cases happ).1]
    rfl

theorem length_tokens_run_empty {step : Step} (h : step ≠ .clear) :
    (run .empty step).tokens.length ≤ 1 := by
  rw [tokens_run_empty h]
  cases step.appended? <;> simp

end Step

/-! ## Visible clauses -/

namespace Entry

variable {e : Entry} (h : Text.isBlankText e.body = false)
include h

theorem isBlankText_negated : Text.isBlankText e.negated = false := by
  unfold negated
  split
  · rw [Text.isBlankText_append, h, Bool.and_false]
  · exact h

theorem isBlankText_connected : Text.isBlankText e.connected = false := by
  rw [connected, Text.isBlankText_append, isBlankText_negated h, Bool.and_false]

end Entry

namespace WhereClause

/-- No token is blank. -/
def Visible (w : WhereClause) : Prop :=
  ∀ token ∈ w.tokens, Text.isBlankText token = false

theorem visible_empty : empty.Visible := by
  intro token htoken
  cases htoken

theorem Visible.append {w : WhereClause} (h : w.Visible) {e : Entry}
    (he : Text.isBlankText e.body = false) : (w.append e).Visible := by
  intro token htoken
  rw [tokens_append, List.mem_append, List.mem_singleton] at htoken
  rcases htoken with htoken | rfl
  · exact h token htoken
  · split
    · exact Entry.isBlankText_negated he
    · exact Entry.isBlankText_connected he

/-- A visible clause has no text only if it has no tokens. -/
theorem Visible.body_eq_empty_iff {w : WhereClause} (h : w.Visible) :
    w.body = "" ↔ w.tokens = [] := by
  rw [← String.toList_inj, body, String.toList_intercalate]
  cases htokens : w.tokens with
  | nil => simp
  | cons token rest =>
    have hne : token ≠ "" := by
      rintro rfl
      exact absurd (h "" (htokens ▸ List.mem_cons_self)) (by decide)
    rw [List.map_cons, Text.intercalate_cons_flatMap]
    simp [hne]

theorem text_of_ne_nil (w : WhereClause) (h : w.tokens ≠ []) : w.text = "WHERE " ++ w.body := by
  simp [text, isEmpty, h]

theorem text_eq_empty_iff (w : WhereClause) : w.text = "" ↔ w.tokens = [] := by
  by_cases h : w.tokens = []
  · simp [text, isEmpty, h]
  · simp [w.text_of_ne_nil h, h]

end WhereClause

namespace Step

open WhereClause

theorem visible_run {w : WhereClause} (h : w.Visible) (step : Step) : (run w step).Visible := by
  by_cases hclear : step = .clear
  · rw [hclear, run]
    exact visible_empty
  · rw [run_eq hclear]
    cases happ : step.appended? with
    | none => exact h
    | some e => exact h.append (isBlankText_body happ)

theorem visible_runAll {w : WhereClause} (h : w.Visible) (steps : List Step) :
    (runAll w steps).Visible := by
  induction steps generalizing w with
  | nil => exact h
  | cons step rest ih => exact ih (visible_run h step)

/-! ## Clauses without text -/

/-- A clause has no text only if its steps append nothing. -/
theorem body_eq_empty_iff {steps : List Step} (h : allClearFree steps = true) :
    (runAll .empty steps).body = "" ↔ steps.filterMap appended? = [] := by
  rw [(visible_runAll visible_empty steps).body_eq_empty_iff, runAll_empty h]
  cases steps.filterMap appended? with
  | nil => simp [ofEntries, empty]
  | cons e es => simp [tokens_ofEntries_cons]

/-- A clause in parentheses gets into another one if its steps append something. -/
theorem appended?_nested {steps : List Step} (h : allClearFree steps = true) (guard : Guard)
    (negate useOr : Bool) :
    appended? (.nested guard steps negate useOr) =
      if guard.isMet ∧ steps.filterMap appended? ≠ [] then
        some ⟨parenthesized (runAll .empty steps).body, negate, useOr⟩
      else none := by
  simp only [appended?, ne_eq, body_eq_empty_iff h]

end Step

end SqlAccess

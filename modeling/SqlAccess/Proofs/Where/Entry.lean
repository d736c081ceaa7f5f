import Mathlib.Data.List.Basic
import SqlAccess.Text.Split
import SqlAccess.Where.Step

/-!
# What steps append

A step other than `clear` appends one entry or nothing, whatever the clause holds (`Step.run_eq`),
so the clause that steps build is made of the entries of the steps (`Step.runAll_eq`). The text of
such a clause is that of its entries, the first without its connector (`toList_body`), and the text
of a group is that of a clause of its conditions (`toList_groupBody`).
-/

namespace SqlAccess

/-- What a step appends: a condition or group, possibly negated, and its connector. -/
structure Entry where
  body : String
  negate : Bool
  useOr : Bool
  deriving DecidableEq, Repr

namespace Entry

def negated (e : Entry) : String :=
  if e.negate then "NOT " ++ e.body else e.body

def connected (e : Entry) : String :=
  WhereClause.connector e.useOr ++ " " ++ e.negated

end Entry

namespace WhereClause

def append (w : WhereClause) (e : Entry) : WhereClause :=
  w.push e.body e.negate e.useOr

/-- The clause of the given entries. -/
def ofEntries (es : List Entry) : WhereClause :=
  es.foldl append empty

end WhereClause

/-- The text of entries, the first without its connector. -/
def levelText : List Entry → List Char
  | [] => []
  | e :: es => e.negated.toList ++ es.flatMap fun e => ' ' :: e.connected.toList

namespace Step

open WhereClause

/-! ## Steps that clear nothing -/

mutual

/-- Neither the step nor one nested in it clears a clause. -/
def clearFree : Step → Bool
  | .condition .. => true
  | .group .. => true
  | .nested _ steps _ _ => allClearFree steps
  | .clear => false

def allClearFree : List Step → Bool
  | [] => true
  | step :: rest => clearFree step && allClearFree rest

end

mutual

/-- The conditions that get into the clause, in text order: those that are not blank, in steps that
are taken. -/
def emitted : Step → List String
  | .condition guard c _ _ => if guard.isMet then (nonBlank c).toList else []
  | .group guard cs _ _ _ => if guard.isMet then cs.filterMap nonBlank else []
  | .nested guard steps _ _ => if guard.isMet then allEmitted steps else []
  | .clear => []

def allEmitted : List Step → List String
  | [] => []
  | step :: rest => emitted step ++ allEmitted rest

end

/-! ## The entry of a step -/

/-- The text of a group of conditions. -/
def groupBody (conditions : List String) (innerOr : Bool) : String :=
  parenthesized ((" " ++ connector innerOr ++ " ").intercalate conditions)

/-- What a step appends. -/
def appended? : Step → Option Entry
  | .condition guard c negate useOr =>
    if guard.isMet then (nonBlank c).map (⟨·, negate, useOr⟩) else none
  | .group guard cs negate useOr innerOr =>
    if guard.isMet ∧ cs.filterMap nonBlank ≠ [] then
      some ⟨groupBody (cs.filterMap nonBlank) innerOr, negate, useOr⟩
    else none
  | .nested guard steps negate useOr =>
    if guard.isMet ∧ (runAll .empty steps).body ≠ "" then
      some ⟨parenthesized (runAll .empty steps).body, negate, useOr⟩
    else none
  | .clear => none

theorem run_eq {step : Step} (h : step ≠ .clear) (w : WhereClause) :
    run w step = (step.appended?.map w.append).getD w := by
  cases step with
  | condition guard c negate useOr =>
    rw [run, appended?]
    split
    · rw [WhereClause.add]
      cases nonBlank c <;> rfl
    · rfl
  | group guard cs negate useOr innerOr =>
    rw [run, appended?]
    by_cases hg : guard.isMet = true
    · rw [if_pos hg, addGroup]
      cases hcs : cs.filterMap nonBlank with
      | nil => simp
      | cons c cs' => simp [hg, append, groupBody]
    · simp [hg]
  | nested guard steps negate useOr =>
    rw [run, appended?]
    by_cases hg : guard.isMet = true
    · rw [if_pos hg, addClause]
      by_cases hb : (runAll .empty steps).body = ""
      · simp [hb]
      · simp [hb, hg, append]
    · simp [hg]
  | clear => exact absurd rfl h

theorem ne_clear_of_clearFree {step : Step} (h : step.clearFree = true) : step ≠ .clear := by
  rintro rfl
  cases h

theorem runAll_eq {steps : List Step} (h : allClearFree steps = true) (w : WhereClause) :
    runAll w steps = (steps.filterMap appended?).foldl append w := by
  induction steps generalizing w with
  | nil => rfl
  | cons step rest ih =>
    rw [allClearFree, Bool.and_eq_true] at h
    rw [runAll, run_eq (ne_clear_of_clearFree h.1), ih h.2, List.filterMap_cons]
    cases step.appended? <;> rfl

/-- Steps that clear nothing build the clause of their entries. -/
theorem runAll_empty {steps : List Step} (h : allClearFree steps = true) :
    runAll .empty steps = ofEntries (steps.filterMap appended?) :=
  runAll_eq h .empty

end Step

/-! ## Texts of clauses and groups -/

namespace WhereClause

/-- One token is appended, which has no connector if it is the first. -/
theorem tokens_append (w : WhereClause) (e : Entry) :
    (w.append e).tokens = w.tokens ++ [if w.tokens = [] then e.negated else e.connected] := by
  rw [append, push, isEmpty]
  by_cases h : w.tokens = []
  · simp [h, Entry.negated]
  · simp [h, Entry.connected, Entry.negated]

theorem tokens_foldl_append {w : WhereClause} (h : w.tokens ≠ []) (es : List Entry) :
    (es.foldl append w).tokens = w.tokens ++ es.map (·.connected) := by
  induction es generalizing w with
  | nil => simp
  | cons e es ih =>
    have hne : (w.append e).tokens ≠ [] := by simp [tokens_append]
    rw [List.foldl_cons, ih hne, tokens_append, if_neg h]
    simp

theorem tokens_ofEntries_cons (e : Entry) (es : List Entry) :
    (ofEntries (e :: es)).tokens = e.negated :: es.map (·.connected) := by
  have hfirst : (empty.append e).tokens = [e.negated] := tokens_append empty e
  have hne : (empty.append e).tokens ≠ [] := by simp [hfirst]
  show (es.foldl append (empty.append e)).tokens = _
  rw [tokens_foldl_append hne, hfirst]
  rfl

end WhereClause

/-- The text of a clause is that of its entries. -/
theorem toList_body (es : List Entry) :
    (WhereClause.ofEntries es).body.toList = levelText es := by
  rw [WhereClause.body, String.toList_intercalate]
  cases es with
  | nil => rfl
  | cons e es =>
    rw [WhereClause.tokens_ofEntries_cons, List.map_cons, Text.intercalate_cons_flatMap, levelText]
    simp [List.flatMap_map]

/-- The text of a group is that of a clause of its conditions, in parentheses. -/
theorem toList_groupBody (conditions : List String) (innerOr : Bool) :
    (Step.groupBody conditions innerOr).toList =
      '(' :: levelText (conditions.map (⟨·, false, innerOr⟩)) ++ [')'] := by
  rw [Step.groupBody, WhereClause.parenthesized, String.toList_append, String.toList_append,
    String.toList_intercalate]
  cases conditions with
  | nil => rfl
  | cons c cs =>
    rw [List.map_cons, Text.intercalate_cons_flatMap, List.map_cons, levelText]
    simp [List.flatMap_map, Entry.connected, Entry.negated]

theorem Step.toList_parenthesized_body {steps : List Step} (h : Step.allClearFree steps = true) :
    (WhereClause.parenthesized (Step.runAll .empty steps).body).toList =
      '(' :: levelText (steps.filterMap Step.appended?) ++ [')'] := by
  rw [Step.runAll_empty h, WhereClause.parenthesized, String.toList_append, String.toList_append,
    toList_body]
  rfl

end SqlAccess

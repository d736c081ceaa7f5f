import SqlAccess.Proofs.Where.Token

/-!
# Groups as clauses

A group of conditions is put together at once: what is blank is dropped, and a connector stands
between the others. It is the group around a clause to which the conditions are added one by one,
each behind its connector (`WhereClause.addGroup_eq_addClause`).
-/

namespace SqlAccess

namespace Step

/-- The steps that add conditions one by one. -/
def adding (conditions : List (Option String)) (useOr : Bool) : List Step :=
  conditions.map (.condition .always · false useOr)

theorem runAll_adding (w : WhereClause) (conditions : List (Option String)) (useOr : Bool) :
    runAll w (adding conditions useOr) = conditions.foldl (fun w c => w.add c false useOr) w := by
  induction conditions generalizing w with
  | nil => rfl
  | cons c cs ih => exact ih (w.add c false useOr)

theorem allClearFree_adding (conditions : List (Option String)) (useOr : Bool) :
    allClearFree (adding conditions useOr) = true := by
  induction conditions with
  | nil => rfl
  | cons c cs ih => exact ih

/-- One entry for each condition that is not blank. -/
theorem filterMap_appended?_adding (conditions : List (Option String)) (useOr : Bool) :
    (adding conditions useOr).filterMap appended? =
      (conditions.filterMap WhereClause.nonBlank).map (⟨·, false, useOr⟩) := by
  rw [adding, List.filterMap_map, List.map_filterMap]
  rfl

/-- A group appends what a clause of its conditions appends. -/
theorem appended?_group (guard : Guard) (conditions : List (Option String))
    (negate useOr innerOr : Bool) :
    appended? (.group guard conditions negate useOr innerOr) =
      appended? (.nested guard (adding conditions innerOr) negate useOr) := by
  have hfree := allClearFree_adding conditions innerOr
  have hbody : groupBody (conditions.filterMap WhereClause.nonBlank) innerOr =
      WhereClause.parenthesized (runAll .empty (adding conditions innerOr)).body := by
    rw [← String.toList_inj, toList_groupBody, toList_parenthesized_body hfree,
      filterMap_appended?_adding]
  rw [appended?_nested hfree, appended?, hbody, filterMap_appended?_adding]
  simp only [ne_eq, List.map_eq_nil_iff]

theorem run_group (w : WhereClause) (guard : Guard) (conditions : List (Option String))
    (negate useOr innerOr : Bool) :
    run w (.group guard conditions negate useOr innerOr) =
      run w (.nested guard (adding conditions innerOr) negate useOr) := by
  rw [run_eq (by simp), run_eq (by simp), appended?_group]

end Step

namespace WhereClause

/-- A group of conditions is the group around a clause of them, and so are the groups by name. -/
theorem addGroup_eq_addClause (w : WhereClause) (conditions : List (Option String)) :
    (∀ negate useOr innerOr, w.addGroup conditions negate useOr innerOr =
      w.addClause (conditions.foldl (fun child c => child.add c false innerOr) .empty)
        negate useOr) ∧
      w.andOrGroup conditions = w.andClause (conditions.foldl or .empty) ∧
      w.andOrNotGroup conditions = w.andNotClause (conditions.foldl or .empty) ∧
      w.orAndGroup conditions = w.orClause (conditions.foldl and .empty) ∧
      w.orAndNotGroup conditions = w.orNotClause (conditions.foldl and .empty) := by
  have hgroup (negate useOr innerOr : Bool) : w.addGroup conditions negate useOr innerOr =
      w.addClause (conditions.foldl (fun child c => child.add c false innerOr) .empty)
        negate useOr := by
    rw [← Step.runAll_adding]
    exact Step.run_group w .always conditions negate useOr innerOr
  exact ⟨hgroup, hgroup false false true, hgroup true false true, hgroup false true false,
    hgroup true true false⟩

end WhereClause

end SqlAccess

import Mathlib.Data.Finset.Card
import Mathlib.Order.Bounds.Basic
import SqlAccess.Proofs.SqlText.Splice

/-!
# Dense numbers

The numbers that `toPositional` gives run from one without gaps: the order of first appearance keeps
no element twice (`nodup_eraseDups`), and an element that is new in it comes behind all that came
before (`idxOf_eraseDups_of_notMem`). A name calls the last parameter of that name (`IsLastCalled`).

Main statement: `toPositional_numbers`.
-/

namespace SqlAccess

variable {marker : Char} {names : List String}

/-- `i` is the last position of a name that is `name`, marker dropped. -/
def IsLastCalled (marker : Char) (names : List String) (name : String) (i : Nat) : Prop :=
  IsGreatest {j | names[j]?.map (logicalName marker) = some name} i

theorem isLastCalled_iff {name : String} {i : Nat} :
    IsLastCalled marker names name i ↔
      lastIdxOf? name (names.map (logicalName marker)) = some i := by
  rw [lastIdxOf?_eq_some_iff, IsLastCalled, IsGreatest, mem_upperBounds]
  simp only [Set.mem_ofPred_eq, List.getElem?_map]
  refine and_congr_right fun _ => ⟨fun h j hj hname => ?_, fun h j hname => ?_⟩
  · exact Nat.not_le.2 hj (h j hname)
  · exact Nat.le_of_not_lt fun hj => h j hj hname

theorem length_eraseDups {α : Type} [DecidableEq α] (l : List α) :
    l.eraseDups.length = l.toFinset.card := by
  rw [← List.toFinset_card_of_nodup (nodup_eraseDups l)]
  congr 1
  ext a
  simp

/-- In the order of first appearance, an element that is new comes behind all before it. -/
theorem idxOf_eraseDups_of_notMem {α : Type} [DecidableEq α] {before after : List α} {a : α}
    (h : a ∉ before) : (before ++ a :: after).eraseDups.idxOf a = before.eraseDups.length := by
  have ha : a ∉ before.eraseDups := mt List.mem_eraseDups.1 h
  have hnew : (a :: after).removeAll before = a :: after.removeAll before := by
    rw [List.cons_removeAll]
    simp [h]
  rw [List.eraseDups_append, hnew, List.eraseDups_cons, List.idxOf_append_of_notMem ha,
    List.idxOf_cons_self, Nat.add_zero]

/-- The indices that lexemes call are those of the placeholders that a scan finds. -/
theorem filterMap_called?_lexemes (find? : String → Option Nat) (sql : String) :
    (lexemes marker sql.toList).filterMap (·.called? find?) =
      (scan sql marker).filterMap fun p => find? p.name := by
  calc (lexemes marker sql.toList).filterMap (·.called? find?)
      = (namesOf (lexemes marker sql.toList)).filterMap find? := by
        rw [namesOf, List.filterMap_filterMap]
        exact List.filterMap_congr fun l _ => by cases l <;> rfl
    _ = (scan sql marker).filterMap fun p => find? p.name := by
        rw [← map_name_scan, List.filterMap_map]
        rfl

/-- The parameters that a numbered text refers to are those called in it, by first appearance. -/
theorem order_toPositional (sql : String) (marker : Char) (names : List String) :
    (toPositional sql marker names).order = ((scan sql marker).filterMap fun p =>
      lastIdxOf? p.name (names.map (logicalName marker))).eraseDups := by
  rw [← filterMap_called?_lexemes fun name => lastIdxOf? name (names.map (logicalName marker)),
    toPositional_eq]

/-- Numbers by first appearance are dense: one that is new is the next one. -/
theorem eq_succ_card_of_new {calls seen later : List Nat} {k : Nat}
    (h : calls.map (calls.eraseDups.idxOf · + 1) = seen ++ k :: later) (hk : k ∉ seen) :
    k = seen.toFinset.card + 1 := by
  obtain ⟨before, rest, hcalls, hseen, hrest⟩ := List.map_eq_append_iff.1 h
  obtain ⟨i, after, rfl, hi, -⟩ := List.map_eq_cons_iff.1 hrest
  have hnew : i ∉ before := by
    intro hmem
    rw [← hi, ← hseen] at hk
    exact hk (List.mem_map_of_mem hmem)
  have hinj : ∀ x ∈ before, ∀ y ∈ before,
      calls.eraseDups.idxOf x + 1 = calls.eraseDups.idxOf y + 1 → x = y := by
    intro x hx y hy hxy
    have hx : x ∈ calls.eraseDups := by simp [hcalls, hx]
    exact (List.idxOf_inj hx).1 (Nat.succ.inj hxy)
  calc k = calls.eraseDups.idxOf i + 1 := hi.symm
    _ = before.eraseDups.length + 1 := by
        rw [hcalls, idxOf_eraseDups_of_notMem hnew]
    _ = seen.eraseDups.length + 1 := by
        rw [← hseen, eraseDups_map hinj, List.length_map]
    _ = seen.toFinset.card + 1 := by rw [length_eraseDups]

/-- A numbered text has references in the place of the placeholders that call a name, each to the
last name it calls, and is unchanged elsewhere; the order behind the references holds what is called
without repetition, and every number that is new, read from the left, is one more than the numbers
seen before. -/
theorem toPositional_numbers (sql : String) (marker : Char) (names : List String) :
    let s := toPositional sql marker names
    s.order.Nodup ∧ (∀ i ∈ s.order, i < names.length) ∧
    (∀ i, i ∈ s.order ↔ ∃ p ∈ scan sql marker, IsLastCalled marker names p.name i) ∧
    ∃ number? : String → Option Nat,
      (∀ p ∈ scan sql marker, ∀ i, IsLastCalled marker names p.name i →
        ∃ k, number? p.name = some (k + 1) ∧ s.order[k]? = some i) ∧
      (∀ p ∈ scan sql marker, (∀ i, ¬ IsLastCalled marker names p.name i) →
        number? p.name = none) ∧
      utf8 s.sql =
        splice sql ((scan sql marker).map fun p => (p, (number? p.name).map referenceText)) ∧
      ∀ seen k later, (scan sql marker).filterMap (number? ·.name) = seen ++ k :: later →
        k ∉ seen → k = seen.toFinset.card + 1 := by
  intro s
  let find? (name : String) := lastIdxOf? name (names.map (logicalName marker))
  let calls := (scan sql marker).filterMap fun p => find? p.name
  have horder : s.order = calls.eraseDups := order_toPositional sql marker names
  have hmem (i : Nat) :
      i ∈ s.order ↔ ∃ p ∈ scan sql marker, IsLastCalled marker names p.name i := by
    rw [horder, List.mem_eraseDups, List.mem_filterMap]
    simp only [isLastCalled_iff, find?]
  refine ⟨horder ▸ nodup_eraseDups calls, fun i hi => ?_, hmem,
    fun name => (find? name).map (s.order.idxOf · + 1), fun p hp i hi => ?_, fun p hp hno => ?_, ?_,
    fun seen k later h hk => ?_⟩
  · obtain ⟨p, -, hp⟩ := (hmem i).1 hi
    have hlt := (List.getElem?_eq_some_iff.1 (lastIdxOf?_eq_some_iff.1 (isLastCalled_iff.1 hp)).1).1
    simpa using hlt
  · refine ⟨s.order.idxOf i, ?_, List.getElem?_idxOf ((hmem i).2 ⟨p, hp, hi⟩)⟩
    simp [find?, isLastCalled_iff.1 hi]
  · have hnone : find? p.name = none :=
      Option.eq_none_iff_forall_not_mem.2 fun i hi => hno i (isLastCalled_iff.2 hi)
    simp [hnone]
  · rw [← utf8_substitute sql marker fun name =>
      ((find? name).map (s.order.idxOf · + 1)).map referenceText]
    simp only [Option.map_map]
    exact congrArg utf8 (sql_toPositional sql marker names)
  · have hnumbers : calls.map (calls.eraseDups.idxOf · + 1) = seen ++ k :: later := by
      rw [← h, ← horder, List.map_filterMap]
    exact eq_succ_card_of_new hnumbers hk

/-- Of two names that are `a` the last one counts, and an unknown name stays. -/
example : toPositional "@b + @a + @b + @c" '@' ["a", "@b", "@a"] =
    ⟨"$1 + $2 + $1 + @c", [1, 2]⟩ := by
  decide +kernel

end SqlAccess

import Mathlib.Data.List.Basic
import SqlAccess.SqlText.Rewrite

/-!
# Numbered references

`toPositional` threads an order of indices through the text. Here the same text is described at
once: the indices that the placeholders call, each kept where it comes first
(`List.eraseDups`), are the order, and a placeholder is written as the place of its index in it.

Main statements: `lastIdxOf?_eq_some_iff` (of several equal names the last one counts),
`numberFrom_eq` (what numbering makes of lexemes) and `toPositional_eq` (the numbered text is a
substitution).
-/

namespace SqlAccess

/-! ## The last position of a name -/

section
variable {α : Type} [DecidableEq α] {a : α} {l : List α}

theorem lastIdxOf?_eq_none_iff : lastIdxOf? a l = none ↔ a ∉ l := by
  induction l with
  | nil => simp [lastIdxOf?]
  | cons x xs ih =>
    simp only [lastIdxOf?, List.mem_cons, not_or]
    cases h : lastIdxOf? a xs with
    | some i =>
      have hxs : a ∈ xs := by simpa [h] using ih
      simp [hxs]
    | none =>
      have hxs : a ∉ xs := ih.1 h
      by_cases hx : x = a
      · simp [hx]
      · simpa [hx, hxs] using fun he : a = x => hx he.symm

theorem lastIdxOf?_eq_some_iff {i : Nat} :
    lastIdxOf? a l = some i ↔ l[i]? = some a ∧ ∀ j, i < j → l[j]? ≠ some a := by
  induction l generalizing i with
  | nil => simp [lastIdxOf?]
  | cons x xs ih =>
    simp only [lastIdxOf?]
    cases h : lastIdxOf? a xs with
    | some k =>
      obtain ⟨hk, hlast⟩ := ih.1 h
      simp only [Option.some.injEq]
      constructor
      · rintro rfl
        refine ⟨by simpa using hk, fun j hj => ?_⟩
        obtain ⟨j, rfl⟩ : ∃ j', j = j' + 1 := ⟨j - 1, by omega⟩
        simpa using hlast j (by omega)
      · rintro ⟨hi, hmax⟩
        -- an index above `i` would contradict the maximality of `i`, one below it that of `k`
        have hle : k + 1 ≤ i := by
          by_contra hlt
          exact hmax (k + 1) (by omega) (by simpa using hk)
        obtain ⟨i, rfl⟩ : ∃ i', i = i' + 1 := ⟨i - 1, by omega⟩
        have hge : i ≤ k := by
          by_contra hlt
          exact hlast i (by omega) (by simpa using hi)
        omega
    | none =>
      have hxs : a ∉ xs := lastIdxOf?_eq_none_iff.1 h
      have hno : ∀ j, xs[j]? ≠ some a := fun j hj => hxs (List.mem_of_getElem? hj)
      constructor
      · intro hi
        by_cases hx : x = a
        · obtain rfl : 0 = i := by simpa [hx] using hi
          refine ⟨by simp [hx], fun j hj => ?_⟩
          obtain ⟨j, rfl⟩ : ∃ j', j = j' + 1 := ⟨j - 1, by omega⟩
          simpa using hno j
        · simp [hx] at hi
      · rintro ⟨hi, -⟩
        cases i with
        | zero => simpa using hi
        | succ i => exact absurd (by simpa using hi) (hno i)

theorem lastIdxOf?_isSome_iff : (lastIdxOf? a l).isSome ↔ a ∈ l := by
  rw [← not_iff_not, Bool.not_eq_true, Option.isSome_eq_false_iff, Option.isNone_iff_eq_none,
    lastIdxOf?_eq_none_iff]

/-- Where no two names are equal, every position is the last one of its name. -/
theorem lastIdxOf?_eq_some_iff_of_nodup (hl : l.Nodup) {i : Nat} :
    lastIdxOf? a l = some i ↔ l[i]? = some a := by
  rw [lastIdxOf?_eq_some_iff]
  refine ⟨And.left, fun hi => ⟨hi, fun j hj hja => ?_⟩⟩
  obtain ⟨hil, -⟩ := List.getElem?_eq_some_iff.1 hi
  have : i = j := (List.getElem?_inj hil hl).1 (hi.trans hja.symm)
  omega

end

/-! ## The order of first appearance -/

section
variable {α : Type} [DecidableEq α]

theorem nodup_eraseDups (l : List α) : l.eraseDups.Nodup := by
  match l with
  | [] => simp
  | a :: l =>
    have hlt : (l.filter fun b => !b == a).length < (a :: l).length :=
      Nat.lt_succ_of_le (List.length_filter_le _ _)
    rw [List.eraseDups_cons]
    exact List.nodup_cons.2 ⟨by simp, nodup_eraseDups _⟩
termination_by l.length
decreasing_by exact hlt

theorem eraseDups_of_nodup {l : List α} (h : l.Nodup) : l.eraseDups = l := by
  induction l with
  | nil => rfl
  | cons a l ih =>
    obtain ⟨ha, hl⟩ := List.nodup_cons.1 h
    have hf : (l.filter fun b => !b == a) = l :=
      List.filter_eq_self.2 fun b hb => by simpa using fun he : b = a => ha (he ▸ hb)
    rw [List.eraseDups_cons, hf, ih hl]

/-- What comes later does not move what has its place. -/
theorem idxOf_eraseDups_append {order : List α} (ho : order.Nodup) {a : α} (ha : a ∈ order)
    (l : List α) : (order ++ l).eraseDups.idxOf a = order.idxOf a := by
  rw [List.eraseDups_append, eraseDups_of_nodup ho, List.idxOf_append_of_mem ha]

/-- A map that keeps the elements of a list apart keeps their order of first appearance. -/
theorem eraseDups_map {β : Type} [DecidableEq β] {f : α → β} {l : List α}
    (hf : ∀ x ∈ l, ∀ y ∈ l, f x = f y → x = y) : (l.map f).eraseDups = l.eraseDups.map f := by
  match l, hf with
  | [], _ => rfl
  | a :: l, hf =>
    have hlt : (l.filter fun b => !b == a).length < (a :: l).length :=
      Nat.lt_succ_of_le (List.length_filter_le _ _)
    have hfilter : (l.map f).filter (fun b => !b == f a) = (l.filter fun b => !b == a).map f := by
      rw [List.filter_map]
      congr 1
      refine List.filter_congr fun b hb => ?_
      have : f b = f a ↔ b = a :=
        ⟨hf b (by simp [hb]) a (by simp), fun h => h ▸ rfl⟩
      simp [this]
    have ih := eraseDups_map (l := l.filter fun b => !b == a) (f := f) fun x hx y hy =>
      hf x (List.mem_cons_of_mem a (List.mem_filter.1 hx).1) y
        (List.mem_cons_of_mem a (List.mem_filter.1 hy).1)
    rw [List.map_cons, List.eraseDups_cons, List.eraseDups_cons, hfilter, ih, List.map_cons]
termination_by l.length
decreasing_by exact hlt

theorem idxOf_map {β : Type} [DecidableEq β] {f : α → β} {l : List α} {a : α}
    (hf : ∀ x ∈ l, f x = f a → x = a) : (l.map f).idxOf (f a) = l.idxOf a := by
  induction l with
  | nil => rfl
  | cons x l ih =>
    have hx : f x = f a ↔ x = a := ⟨hf x (by simp), fun h => h ▸ rfl⟩
    have ih := ih fun y hy => hf y (List.mem_cons_of_mem x hy)
    by_cases h : x = a
    · simp [h]
    · rw [List.map_cons, List.idxOf_cons_ne _ (mt hx.1 h), List.idxOf_cons_ne _ h, ih]

end

/-! ## Numbering -/

/-- Reference `k` as it is written. -/
def referenceText (k : Nat) : String := String.ofList ('$' :: (Nat.repr k).toList)

/-- The index that a lexeme calls, if it is a placeholder with a known name. -/
def Lexeme.called? (find? : String → Option Nat) : Lexeme → Option Nat
  | .placeholder name => find? (String.ofList name)
  | _ => none

theorem assignNumber_of_mem {order : List Nat} {i : Nat} (h : i ∈ order) :
    assignNumber order i = (order.idxOf i + 1, order) := by
  have hi : order.idxOf? i = some (order.idxOf i) := by
    rw [List.idxOf_eq_getD_idxOf?]
    cases hc : order.idxOf? i with
    | some k => rfl
    | none => exact absurd h (List.idxOf?_eq_none_iff.1 hc)
  simp [assignNumber, hi]

theorem assignNumber_of_notMem {order : List Nat} {i : Nat} (h : i ∉ order) :
    assignNumber order i = (order.length + 1, order ++ [i]) := by
  simp [assignNumber, List.idxOf?_eq_none_iff.2 h]

/-- A number once given stays, whatever is numbered behind it. -/
theorem assignNumber_eq {order : List Nat} (ho : order.Nodup) (i : Nat) (l : List Nat) :
    (assignNumber order i).1 = (order ++ i :: l).eraseDups.idxOf i + 1 ∧
      (assignNumber order i).2.Nodup ∧
      ((assignNumber order i).2 ++ l).eraseDups = (order ++ i :: l).eraseDups := by
  by_cases hi : i ∈ order
  · rw [assignNumber_of_mem hi, idxOf_eraseDups_append ho hi]
    refine ⟨rfl, ho, ?_⟩
    rw [List.eraseDups_append, List.eraseDups_append, List.cons_removeAll]
    simp [hi]
  · have hoi : (order ++ [i]).Nodup := by
      simpa [List.nodup_append] using ⟨ho, fun a ha h => hi (h ▸ ha)⟩
    have happ : order ++ i :: l = order ++ [i] ++ l := by simp
    rw [assignNumber_of_notMem hi, happ, idxOf_eraseDups_append hoi (by simp),
      List.idxOf_append_of_notMem hi]
    exact ⟨by simp, hoi, rfl⟩

/-- What numbering makes of lexemes, seen from its end: the order is that of first appearance, and
every known placeholder is written as its place in it. -/
theorem numberFrom_eq (marker : Char) (find? : String → Option Nat) {order : List Nat}
    (ho : order.Nodup) (ls : List Lexeme) :
    numberFrom marker find? order ls =
      (ls.flatMap (·.rendered marker fun name => (find? name).map fun i =>
          referenceText ((order ++ ls.filterMap (·.called? find?)).eraseDups.idxOf i + 1)),
        (order ++ ls.filterMap (·.called? find?)).eraseDups) := by
  induction ls generalizing order with
  | nil => simp [numberFrom, eraseDups_of_nodup ho]
  | cons l ls ih =>
    have hskip (hl : l.called? find? = none) (hn : numberFrom marker find? order (l :: ls) =
        (l.text marker ++ (numberFrom marker find? order ls).1,
          (numberFrom marker find? order ls).2))
        (hr : ∀ render : Nat → String,
          l.rendered marker (fun name => (find? name).map render) = l.text marker) :
        numberFrom marker find? order (l :: ls) =
          ((l :: ls).flatMap (·.rendered marker fun name => (find? name).map fun i =>
              referenceText
                ((order ++ (l :: ls).filterMap (·.called? find?)).eraseDups.idxOf i + 1)),
            (order ++ (l :: ls).filterMap (·.called? find?)).eraseDups) := by
      rw [hn, ih ho, List.filterMap_cons_none hl, List.flatMap_cons, hr]
    cases l with
    | plain c => exact hskip rfl rfl fun _ => rfl
    | region kind text => exact hskip rfl rfl fun _ => rfl
    | placeholder name =>
      cases hf : find? (String.ofList name) with
      | none =>
        refine hskip hf ?_ fun render => ?_
        · simp [numberFrom, hf]
        · simp [Lexeme.rendered, hf, Lexeme.text]
      | some i =>
        obtain ⟨hk, hnd, hrest⟩ := assignNumber_eq ho i (ls.filterMap (·.called? find?))
        have hcalled : (Lexeme.placeholder name).called? find? = some i := hf
        rw [List.filterMap_cons_some hcalled, List.flatMap_cons]
        simp only [numberFrom, hf, ih hnd, hrest, Lexeme.rendered, Option.map_some,
          Option.getD_some, hk]
        simp [referenceText]

/-- Numbered text is a substitution of references. -/
theorem toPositional_eq (sql : String) (marker : Char) (names : List String) :
    let find? := (lastIdxOf? · (names.map (logicalName marker)))
    let order := ((lexemes marker sql.toList).filterMap (·.called? find?)).eraseDups
    toPositional sql marker names =
      ⟨substitute sql marker fun name => (find? name).map fun i =>
        referenceText (order.idxOf i + 1), order⟩ := by
  intro find? order
  have h := numberFrom_eq marker find? (List.nodup_nil (α := Nat)) (lexemes marker sql.toList)
  simp only [toPositional, substitute, Positional.mk.injEq]
  exact ⟨congrArg (String.ofList ·.1) h, congrArg (·.2) h⟩

end SqlAccess

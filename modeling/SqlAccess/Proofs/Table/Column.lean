import Mathlib.Data.List.Forall2
import SqlAccess.Table.Row

/-!
# Columns by name

Names are the same up to case if they differ in the case of ASCII letters at most (`SameName`). A
name finds the first column called exactly so, else the first one that is the same up to case
(`findColumn?_eq_some_iff`), and none if no column is (`findColumn?_eq_none_iff`). Where no two
columns are the same up to case, at most one can be found (`findColumn?_of_sameName`).
-/

namespace SqlAccess

/-! ## Names up to case -/

/-- The same character, or the same ASCII letter in its two cases. -/
def SameLetter (c d : Char) : Prop :=
  c = d ∨ (c.isUpper = true ∧ d.toNat = c.toNat + 32) ∨ (d.isUpper = true ∧ c.toNat = d.toNat + 32)

/-- The names differ in the case of ASCII letters at most. -/
def SameName (s t : String) : Prop :=
  List.Forall₂ SameLetter s.toList t.toList

theorem isUpper_iff_val {c : Char} : c.isUpper = true ↔ c.val ≥ 'A'.val ∧ c.val ≤ 'Z'.val :=
  decide_eq_true_iff

theorem isUpper_iff {c : Char} : c.isUpper = true ↔ 65 ≤ c.toNat ∧ c.toNat ≤ 90 := by
  simp only [isUpper_iff_val, ge_iff_le, UInt32.le_iff_toNat_le]
  rfl

theorem toNat_toLower (c : Char) :
    c.toLower.toNat = if c.isUpper = true then c.toNat + 32 else c.toNat := by
  unfold Char.toLower
  by_cases h : c.isUpper = true
  · have hrange := isUpper_iff.1 h
    rw [dif_pos (isUpper_iff_val.1 h), if_pos h]
    show (c.val + 32).toNat = c.val.toNat + 32
    rw [UInt32.toNat_add]
    show (c.toNat + 32) % 2 ^ 32 = c.toNat + 32
    omega
  · rw [dif_neg (mt isUpper_iff_val.2 h), if_neg h]

theorem toLower_eq_iff {c d : Char} : c.toLower = d.toLower ↔ SameLetter c d := by
  unfold SameLetter
  simp only [← Char.toNat_inj, toNat_toLower, isUpper_iff]
  split <;> split <;> omega

theorem foldCase_eq_iff {s t : String} : foldCase s = foldCase t ↔ SameName s t := by
  unfold foldCase SameName
  simp only [← List.forall₂_eq_eq_eq, List.forall₂_map_left_iff, List.forall₂_map_right_iff,
    toLower_eq_iff]

instance (s t : String) : Decidable (SameName s t) :=
  decidable_of_iff _ foldCase_eq_iff

namespace SameName

theorem refl (s : String) : SameName s s :=
  foldCase_eq_iff.1 rfl

theorem symm {s t : String} (h : SameName s t) : SameName t s :=
  foldCase_eq_iff.1 (foldCase_eq_iff.2 h).symm

theorem trans {s t u : String} (h : SameName s t) (h' : SameName t u) : SameName s u :=
  foldCase_eq_iff.1 ((foldCase_eq_iff.2 h).trans (foldCase_eq_iff.2 h'))

theorem length_eq {s t : String} (h : SameName s t) : s.toList.length = t.toList.length :=
  List.Forall₂.length_eq h

end SameName

/-- A name with its letters in lower case is the same up to case. -/
theorem sameName_toLower (s : String) : SameName s (String.ofList (s.toList.map Char.toLower)) := by
  unfold SameName
  rw [String.toList_ofList, List.forall₂_map_right_iff, List.forall₂_same]
  intro c _
  by_cases h : c.isUpper = true
  · exact .inr (.inl ⟨h, by rw [toNat_toLower, if_pos h]⟩)
  · exact .inl (Char.toNat_inj.1 (by rw [toNat_toLower, if_neg h]))

/-! ## The column of a name -/

/-- `i` is the position of the first column whose name has the property `P`. -/
def FirstColumn (P : String → Prop) (columns : List String) (i : Nat) : Prop :=
  (∃ c, columns[i]? = some c ∧ P c) ∧ ∀ j < i, ∀ c, columns[j]? = some c → ¬ P c

variable {columns : List String} {name : String} {i : Nat}

theorem FirstColumn.unique {P : String → Prop} {j : Nat} (hi : FirstColumn P columns i)
    (hj : FirstColumn P columns j) : i = j := by
  obtain ⟨⟨c, hc, hP⟩, hbefore⟩ := hi
  obtain ⟨⟨d, hd, hQ⟩, hbefore'⟩ := hj
  rcases Nat.lt_trichotomy i j with hlt | heq | hlt
  · exact absurd hP (hbefore' i hlt c hc)
  · exact heq
  · exact absurd hQ (hbefore j hlt d hd)

theorem findIdx?_eq_some_iff_firstColumn {p : String → Bool} :
    columns.findIdx? p = some i ↔ FirstColumn (p · = true) columns i := by
  rw [List.findIdx?_eq_some_iff_getElem]
  constructor
  · rintro ⟨hi, hp, hbefore⟩
    refine ⟨⟨_, List.getElem?_eq_getElem hi, hp⟩, fun j hj c hc => ?_⟩
    obtain ⟨_, rfl⟩ := List.getElem?_eq_some_iff.1 hc
    exact hbefore j hj
  · rintro ⟨⟨c, hc, hp⟩, hbefore⟩
    obtain ⟨hi, rfl⟩ := List.getElem?_eq_some_iff.1 hc
    exact ⟨hi, hp, fun j hj => hbefore j hj _ (List.getElem?_eq_getElem (Nat.lt_trans hj hi))⟩

theorem findIdx?_foldCase_eq_some_iff :
    (columns.findIdx? fun c => foldCase c == foldCase name) = some i ↔
      FirstColumn (SameName name) columns i := by
  have hiff : (fun c => (foldCase c == foldCase name) = true) = SameName name := by
    funext c
    rw [beq_iff_eq, foldCase_eq_iff]
    exact propext ⟨.symm, .symm⟩
  rw [findIdx?_eq_some_iff_firstColumn, hiff]

/-- The first column of exactly the name is found, else the first that is the same up to case. -/
theorem findColumn?_eq_some_iff :
    findColumn? columns name = some i ↔
      FirstColumn (· = name) columns i ∨
        (name ∉ columns ∧ FirstColumn (SameName name) columns i) := by
  unfold findColumn?
  cases hexact : columns.idxOf? name with
  | some j =>
    have hmem : name ∈ columns := List.isSome_idxOf?.1 (by rw [hexact]; rfl)
    have hj : FirstColumn (· = name) columns j := by
      simpa using findIdx?_eq_some_iff_firstColumn.1 hexact
    show some j = some i ↔ _
    constructor
    · intro h
      cases h
      exact .inl hj
    · rintro (hi | ⟨habsent, -⟩)
      · rw [hj.unique hi]
      · exact absurd hmem habsent
  | none =>
    have habsent := List.idxOf?_eq_none_iff.1 hexact
    show (columns.findIdx? fun c => foldCase c == foldCase name) = some i ↔ _
    rw [findIdx?_foldCase_eq_some_iff]
    constructor
    · exact fun h => .inr ⟨habsent, h⟩
    · rintro (⟨⟨c, hc, rfl⟩, -⟩ | ⟨-, h⟩)
      · exact absurd (List.mem_of_getElem? hc) habsent
      · exact h

theorem findColumn?_eq_none_iff :
    findColumn? columns name = none ↔ ∀ c ∈ columns, ¬ SameName name c := by
  unfold findColumn?
  cases hexact : columns.idxOf? name with
  | some j =>
    have hmem : name ∈ columns := List.isSome_idxOf?.1 (by rw [hexact]; rfl)
    simp only [reduceCtorEq, false_iff]
    exact fun h => h name hmem (.refl name)
  | none =>
    simp only [List.findIdx?_eq_none_iff, beq_eq_false_iff_ne, ne_eq, foldCase_eq_iff]
    exact forall₂_congr fun c _ => not_congr ⟨.symm, .symm⟩

/-- A column that is found is called as it was looked for, up to case. -/
theorem sameName_of_findColumn? (h : findColumn? columns name = some i) :
    ∃ c, columns[i]? = some c ∧ SameName name c := by
  rcases findColumn?_eq_some_iff.1 h with ⟨⟨c, hc, rfl⟩, -⟩ | ⟨-, ⟨c, hc, hsame⟩, -⟩
  · exact ⟨c, hc, .refl c⟩
  · exact ⟨c, hc, hsame⟩

/-- Where a column is found, the row has a value. -/
theorem Row.exists_of_ordinal {row : Row} (h : row.ordinal? name = some i) :
    ∃ c v, row.columns[i]? = some c ∧ SameName name c ∧ row.values[i]? = some v := by
  obtain ⟨c, hc, hsame⟩ := sameName_of_findColumn? h
  have hlt : i < row.values.length := row.width_eq ▸ (List.getElem?_eq_some_iff.1 hc).1
  exact ⟨c, _, hc, hsame, List.getElem?_eq_getElem hlt⟩

/-- No two of the columns are the same up to case. -/
def DistinctColumns (columns : List String) : Prop :=
  columns.Pairwise fun c d => ¬ SameName c d

instance (columns : List String) : Decidable (DistinctColumns columns) :=
  inferInstanceAs (Decidable (columns.Pairwise _))

theorem DistinctColumns.unique (h : DistinctColumns columns) {j : Nat} {c d : String}
    (hc : columns[i]? = some c) (hd : columns[j]? = some d) (hsame : SameName c d) : i = j := by
  obtain ⟨hi, rfl⟩ := List.getElem?_eq_some_iff.1 hc
  obtain ⟨hj, rfl⟩ := List.getElem?_eq_some_iff.1 hd
  rcases Nat.lt_trichotomy i j with hlt | heq | hlt
  · exact absurd hsame (List.pairwise_iff_getElem.1 h i j hi hj hlt)
  · exact heq
  · exact absurd hsame.symm (List.pairwise_iff_getElem.1 h j i hj hi hlt)

/-- Among such columns, the one that is the same up to case is found. -/
theorem findColumn?_of_sameName (h : DistinctColumns columns) {c : String}
    (hc : columns[i]? = some c) (hsame : SameName name c) : findColumn? columns name = some i := by
  cases hfind : findColumn? columns name with
  | none => exact absurd hsame (findColumn?_eq_none_iff.1 hfind c (List.mem_of_getElem? hc))
  | some j =>
    obtain ⟨d, hd, hsame'⟩ := sameName_of_findColumn? hfind
    rw [h.unique hd hc (hsame'.symm.trans hsame)]

end SqlAccess

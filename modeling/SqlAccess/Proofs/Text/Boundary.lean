import SqlAccess.Text.Truncate

/-!
# Where texts are cut

Walking back from a byte ends at the last boundary that is not behind it (`le_boundaryBelow`): such
a boundary is the end of a beginning of the text, and of those that fit in the limit the text is cut
to the longest (`truncated_longest`).
-/

namespace SqlAccess.Text

open String (Pos.Raw)

variable {s t u : String} {limit stop : Nat}

/-! ## Walking back -/

theorem boundaryBelow_le (s : String) (stop : Nat) : boundaryBelow s stop ≤ stop := by
  fun_induction boundaryBelow s stop with
  | case1 => exact Nat.le_refl 0
  | case2 stop h => exact Nat.le_refl _
  | case3 stop h ih => exact Nat.le_succ_of_le ih

/-- No boundary is passed over. -/
theorem le_boundaryBelow {p : Pos.Raw} (hp : p.IsValid s) (hle : p.byteIdx ≤ stop) :
    p.byteIdx ≤ boundaryBelow s stop := by
  fun_induction boundaryBelow s stop with
  | case1 => exact hle
  | case2 stop h => exact hle
  | case3 stop h ih =>
    refine ih (Nat.le_of_lt_succ (Nat.lt_of_le_of_ne hle ?_))
    intro he
    obtain rfl : p = ⟨stop + 1⟩ := String.Pos.Raw.ext he
    exact h hp

/-! ## Beginnings -/

/-- Where a beginning of the text ends, there is a boundary. -/
theorem isValid_of_beginning (h : u.toList <+: s.toList) :
    (Pos.Raw.mk u.utf8ByteSize).IsValid s := by
  obtain ⟨rest, hrest⟩ := h
  refine String.Pos.Raw.isValid_iff_exists_append.2 ⟨u, String.ofList rest, ?_, rfl⟩
  rw [← String.toList_inj, String.toList_append, String.toList_ofList, hrest]

/-- Of two beginnings of a text, the one with fewer bytes is a beginning of the other. -/
theorem prefix_of_utf8ByteSize_le (hu : u.toList <+: s.toList) (ht : t.toList <+: s.toList)
    (hle : u.utf8ByteSize ≤ t.utf8ByteSize) : u.toList <+: t.toList := by
  rcases List.prefix_or_prefix_of_prefix hu ht with h | ⟨rest, hrest⟩
  · exact h
  · -- the other way round, nothing can be left
    have happ : u = t ++ String.ofList rest := by
      rw [← String.toList_inj, String.toList_append, String.toList_ofList, hrest]
    have hzero : (String.ofList rest).utf8ByteSize = 0 := by
      rw [happ, String.utf8ByteSize_append] at hle
      omega
    have heq : u = t := by
      rw [happ, String.utf8ByteSize_eq_zero_iff.1 hzero, String.append_empty]
    exact heq ▸ List.prefix_refl u.toList

theorem truncated_of_le (h : s.utf8ByteSize ≤ limit) : truncated limit s = s :=
  if_pos h

/-- A text that is too long is cut at the boundary that walking back finds. -/
theorem truncated_append (h : limit < s.utf8ByteSize) :
    (truncated limit s).toList <+: s.toList ∧
      (truncated limit s).utf8ByteSize = boundaryBelow s limit := by
  rw [truncated, if_neg (Nat.not_le.2 h)]
  generalize hp : s.pos ⟨boundaryBelow s limit⟩ (isValid_boundaryBelow s limit) = p
  have hsplit := p.splits
  refine ⟨⟨(s.sliceFrom p).copy.toList, ?_⟩, ?_⟩
  · rw [← String.toList_append, ← hsplit.eq_append]
  · have hoffset := hsplit.offset_eq_rawEndPos
    rw [← hp, String.offset_pos] at hoffset
    rw [hp] at hoffset
    exact (congrArg Pos.Raw.byteIdx hoffset).symm

/-- A text is cut to its longest beginning of whole characters that fits in the limit, and not at
all if it fits. The walk back from the limit ends at a boundary, the last one that is not behind the
limit; at byte zero there always is one. -/
theorem truncated_longest (limit : Nat) (s : String) :
    (truncated limit s).toList <+: s.toList ∧ (truncated limit s).utf8ByteSize ≤ limit ∧
      (∀ u : String, u.toList <+: s.toList → u.utf8ByteSize ≤ limit →
        u.toList <+: (truncated limit s).toList) ∧
      (s.utf8ByteSize ≤ limit → truncated limit s = s) ∧
      (Pos.Raw.mk (boundaryBelow s limit)).IsValid s ∧ boundaryBelow s limit ≤ limit ∧
      ∀ p : Pos.Raw, p.IsValid s → p.byteIdx ≤ limit → p.byteIdx ≤ boundaryBelow s limit := by
  have hcut : (truncated limit s).toList <+: s.toList ∧ (truncated limit s).utf8ByteSize ≤ limit ∧
      ∀ u : String, u.toList <+: s.toList → u.utf8ByteSize ≤ limit →
        u.utf8ByteSize ≤ (truncated limit s).utf8ByteSize := by
    rcases Nat.lt_or_ge limit s.utf8ByteSize with h | h
    · obtain ⟨ht, hsize⟩ := truncated_append h
      refine ⟨ht, Nat.le_trans (Nat.le_of_eq hsize) (boundaryBelow_le s limit), fun u hu hle => ?_⟩
      rw [hsize]
      exact le_boundaryBelow (isValid_of_beginning hu) hle
    · rw [truncated_of_le h]
      exact ⟨List.prefix_refl _, h, fun u hu _ => (isValid_of_beginning hu).le_utf8ByteSize⟩
  obtain ⟨ht, hle, hmax⟩ := hcut
  exact ⟨ht, hle, fun u hu h => prefix_of_utf8ByteSize_le hu ht (hmax u hu h), truncated_of_le,
    isValid_boundaryBelow s limit, boundaryBelow_le s limit, fun p => le_boundaryBelow⟩

example : truncated 2 "héllo" = "h" ∧ truncated 3 "héllo" = "hé" := by decide +kernel

end SqlAccess.Text

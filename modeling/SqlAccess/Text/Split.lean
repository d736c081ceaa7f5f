/-!
# Splitting text

The parts of a text between separators; there is always one part more than there are separators.
No part holds the separator (`notMem_of_mem_splitAtEach`), joining them gives the text again
(`intercalate_splitAtEach`), and they are the only such parts (`splitAtEach_intercalate`).
-/

namespace SqlAccess.Text

/-- The parts of a text between the occurrences of `sep`. -/
def splitAtEach (sep : Char) : List Char → List (List Char)
  | [] => [[]]
  | c :: rest =>
    match splitAtEach sep rest with
    | [] => [[c]]
    | part :: parts => if c = sep then [] :: part :: parts else (c :: part) :: parts

theorem splitAtEach_ne_nil (sep : Char) (s : List Char) : splitAtEach sep s ≠ [] := by
  cases s with
  | nil => simp [splitAtEach]
  | cons c rest =>
    rw [splitAtEach]
    split
    · simp
    · split <;> simp

theorem length_splitAtEach (sep : Char) (s : List Char) :
    (splitAtEach sep s).length = s.count sep + 1 := by
  induction s with
  | nil => rfl
  | cons c rest ih =>
    rw [splitAtEach]
    split
    · next h => exact absurd h (splitAtEach_ne_nil sep rest)
    · next part parts h =>
      rw [h] at ih
      by_cases hc : c = sep <;> simp_all

/-- The parts with the separator between them are the text again. -/
theorem intercalate_splitAtEach (sep : Char) (s : List Char) :
    [sep].intercalate (splitAtEach sep s) = s := by
  induction s with
  | nil => rfl
  | cons c rest ih =>
    rw [splitAtEach]
    cases h : splitAtEach sep rest with
    | nil => exact absurd h (splitAtEach_ne_nil sep rest)
    | cons part parts =>
      rw [h] at ih
      by_cases hc : c = sep
      · simp [hc, ih]
      · cases parts <;> simp_all [List.intercalate_cons_cons]

/-! ## Splitting what was joined -/

variable {sep : Char}

theorem notMem_of_mem_splitAtEach {s part : List Char} (h : part ∈ splitAtEach sep s) :
    sep ∉ part := by
  induction s generalizing part with
  | nil =>
    obtain rfl : part = [] := by simpa [splitAtEach] using h
    exact List.not_mem_nil
  | cons c rest ih =>
    rw [splitAtEach] at h
    split at h
    · next hnil => exact absurd hnil (splitAtEach_ne_nil sep rest)
    · next first parts hparts =>
      rw [hparts] at ih
      have hfirst := ih List.mem_cons_self
      split at h
      · rcases List.mem_cons.1 h with rfl | h
        · exact List.not_mem_nil
        · exact ih h
      · next hc =>
        rcases List.mem_cons.1 h with rfl | h
        · exact mt List.mem_cons.1 (not_or.2 ⟨Ne.symm hc, hfirst⟩)
        · exact ih (List.mem_cons_of_mem first h)

theorem splitAtEach_append (sep : Char) (part s : List Char) (h : sep ∉ part) :
    splitAtEach sep (part ++ sep :: s) = part :: splitAtEach sep s := by
  induction part with
  | nil =>
    cases hs : splitAtEach sep s with
    | nil => exact absurd hs (splitAtEach_ne_nil sep s)
    | cons first parts => simp [splitAtEach, hs]
  | cons c part ih =>
    obtain ⟨hc, hpart⟩ := not_or.1 (mt List.mem_cons.2 h)
    rw [List.cons_append, splitAtEach, ih hpart]
    simp [Ne.symm hc]

theorem splitAtEach_of_notMem {part : List Char} (h : sep ∉ part) :
    splitAtEach sep part = [part] := by
  induction part with
  | nil => rfl
  | cons c part ih =>
    obtain ⟨hc, hpart⟩ := not_or.1 (mt List.mem_cons.2 h)
    rw [splitAtEach, ih hpart]
    simp [Ne.symm hc]

/-- Parts without the separator are found again between its occurrences. -/
theorem splitAtEach_intercalate {parts : List (List Char)} (hne : parts ≠ [])
    (h : ∀ part ∈ parts, sep ∉ part) : splitAtEach sep ([sep].intercalate parts) = parts := by
  induction parts with
  | nil => exact absurd rfl hne
  | cons part parts ih =>
    have hpart := h part List.mem_cons_self
    cases parts with
    | nil => rw [List.intercalate_singleton, splitAtEach_of_notMem hpart]
    | cons next parts =>
      have hrest := ih (List.cons_ne_nil next parts) fun p hp => h p (List.mem_cons_of_mem part hp)
      rw [List.intercalate_cons_cons, List.append_assoc, List.singleton_append,
        splitAtEach_append sep part _ hpart, hrest]

theorem intercalate_cons_flatMap {α : Type} (sep x : List α) (xs : List (List α)) :
    sep.intercalate (x :: xs) = x ++ xs.flatMap (sep ++ ·) := by
  induction xs generalizing x with
  | nil => simp
  | cons y xs ih =>
    rw [List.intercalate_cons_cons, ih, List.flatMap_cons]
    simp only [List.append_assoc]

end SqlAccess.Text

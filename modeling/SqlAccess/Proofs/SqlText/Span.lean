import SqlAccess.Proofs.SqlText.Reading
import SqlAccess.SqlText.Placeholder
import SqlAccess.Text.Slice

/-!
# Placeholders of appended texts

The placeholders of lexemes behind other lexemes are their own ones moved by the bytes in front
(`placeholdersFrom_append`), and a placeholder that is found at some byte is a lexeme behind just
that many bytes (`exists_of_placeholdersFrom_eq`). Of a text whose beginning is known, the parts at
its end are known too (`splitAt?_of_append`).
-/

namespace SqlAccess

variable {marker : Char} {ls : List Lexeme}

/-- The placeholder in a text with `offset` more bytes in front. -/
def Placeholder.shift (offset : Nat) (p : Placeholder) : Placeholder :=
  ⟨offset + p.start, offset + p.stop, p.name⟩

@[simp] theorem Placeholder.shift_zero (p : Placeholder) : p.shift 0 = p := by
  simp [Placeholder.shift]

theorem Placeholder.shift_shift (m n : Nat) (p : Placeholder) :
    (p.shift n).shift m = p.shift (m + n) := by
  simp [Placeholder.shift, Nat.add_assoc]

/-- The names of the placeholders among lexemes, in text order. -/
def namesOf (ls : List Lexeme) : List String :=
  ls.filterMap fun
    | .placeholder name => some (String.ofList name)
    | _ => none

theorem namesOf_append (xs ys : List Lexeme) : namesOf (xs ++ ys) = namesOf xs ++ namesOf ys :=
  List.filterMap_append

theorem mem_namesOf_iff {name : String} :
    name ∈ namesOf ls ↔ .placeholder name.toList ∈ ls := by
  rw [namesOf, List.mem_filterMap]
  constructor
  · rintro ⟨l, hl, hname⟩
    cases l with
    | placeholder spelled =>
      obtain rfl : String.ofList spelled = name := by simpa using hname
      simpa using hl
    | plain c => cases hname
    | region kind text => cases hname
  · exact fun h => ⟨_, h, by simp⟩

theorem map_name_placeholdersFrom (marker : Char) (start : Nat) (ls : List Lexeme) :
    (placeholdersFrom marker start ls).map (·.name) = namesOf ls := by
  induction ls generalizing start with
  | nil => rfl
  | cons l ls ih =>
    cases l with
    | placeholder name =>
      rw [placeholdersFrom, List.map_cons, ih]
      rfl
    | plain c => exact ih _
    | region kind text => exact ih _

theorem map_name_scan (sql : String) (marker : Char) :
    (scan sql marker).map (·.name) = namesOf (lexemes marker sql.toList) :=
  map_name_placeholdersFrom marker 0 _

theorem placeholdersFrom_add (marker : Char) (offset start : Nat) (ls : List Lexeme) :
    placeholdersFrom marker (offset + start) ls =
      (placeholdersFrom marker start ls).map (·.shift offset) := by
  induction ls generalizing start with
  | nil => rfl
  | cons l ls ih =>
    cases l <;> simp only [placeholdersFrom, Nat.add_assoc, ih, List.map_cons, Placeholder.shift]

theorem placeholdersFrom_append (marker : Char) (start : Nat) (xs ys : List Lexeme) :
    placeholdersFrom marker start (xs ++ ys) =
      placeholdersFrom marker start xs ++
        (placeholdersFrom marker start ys).map (·.shift (byteLength (textOf marker xs))) := by
  induction xs generalizing start with
  | nil => simp [placeholdersFrom, byteLength]
  | cons l xs ih =>
    have hmove : (placeholdersFrom marker (start + byteLength (l.text marker)) ys).map
          (·.shift (byteLength (textOf marker xs))) =
        (placeholdersFrom marker start ys).map
          (·.shift (byteLength (textOf marker (l :: xs)))) := by
      rw [Nat.add_comm start, placeholdersFrom_add, List.map_map, textOf_cons, byteLength_append]
      refine List.map_congr_left fun p _ => ?_
      rw [Function.comp_apply, Placeholder.shift_shift, Nat.add_comm]
    have ih := ih (start + byteLength (l.text marker))
    rw [hmove] at ih
    cases l <;> simp only [List.cons_append, placeholdersFrom, ih]

/-- A placeholder that is found is a lexeme, behind the bytes in front of it. The placeholders before
it are those of the lexemes before it, and those after it are those of the lexemes after it. -/
theorem exists_of_placeholdersFrom_eq {start : Nat} {before after : List Placeholder}
    {p : Placeholder} (h : placeholdersFrom marker start ls = before ++ p :: after) :
    ∃ pre post, ls = pre ++ .placeholder p.name.toList :: post ∧
      before = placeholdersFrom marker start pre ∧
      p.start = start + byteLength (textOf marker pre) ∧
      p.stop = p.start + byteLength (marker :: p.name.toList) ∧
      after = placeholdersFrom marker p.stop post := by
  induction ls generalizing start before with
  | nil => simp [placeholdersFrom] at h
  | cons l ls ih =>
    have hlater {before' : List Placeholder}
        (h : placeholdersFrom marker (start + byteLength (l.text marker)) ls =
          before' ++ p :: after)
        (hbefore : ∀ pre, placeholdersFrom marker (start + byteLength (l.text marker)) pre =
          before' → before = placeholdersFrom marker start (l :: pre)) :
        ∃ pre post, l :: ls = pre ++ .placeholder p.name.toList :: post ∧
          before = placeholdersFrom marker start pre ∧
          p.start = start + byteLength (textOf marker pre) ∧
          p.stop = p.start + byteLength (marker :: p.name.toList) ∧
          after = placeholdersFrom marker p.stop post := by
      obtain ⟨pre, post, rfl, hpre, hstart, hstop, hafter⟩ := ih h
      refine ⟨l :: pre, post, rfl, hbefore pre hpre.symm, ?_, hstop, hafter⟩
      rw [hstart, textOf_cons, byteLength_append, Nat.add_assoc]
    cases l with
    | plain c => exact hlater h fun pre hpre => hpre.symm
    | region kind text => exact hlater h fun pre hpre => hpre.symm
    | placeholder name =>
      rw [placeholdersFrom] at h
      cases before with
      | nil =>
        obtain ⟨rfl, rfl⟩ := List.cons.inj h
        exact ⟨[], ls, by simp, rfl, rfl, by simp [Lexeme.text], rfl⟩
      | cons q before =>
        obtain ⟨rfl, htail⟩ := List.cons.inj h
        refine hlater htail fun pre hpre => ?_
        rw [placeholdersFrom, hpre]

/-- A placeholder that is found is a lexeme, behind the bytes in front of it. -/
theorem exists_of_mem_placeholdersFrom {start : Nat} {p : Placeholder}
    (h : p ∈ placeholdersFrom marker start ls) :
    ∃ pre post, ls = pre ++ .placeholder p.name.toList :: post ∧
      p.start = start + byteLength (textOf marker pre) := by
  obtain ⟨before, after, h⟩ := List.append_of_mem h
  obtain ⟨pre, post, hls, -, hstart, -⟩ := exists_of_placeholdersFrom_eq h
  exact ⟨pre, post, hls, hstart⟩

/-! ## Bytes in front -/

theorem eq_nil_of_byteLength_eq_zero {s : List Char} (h : byteLength s = 0) : s = [] := by
  cases s with
  | nil => rfl
  | cons c s =>
    have := c.utf8Size_pos
    simp only [byteLength] at h
    omega

/-- Of one text, two beginnings of the same length in bytes are the same. -/
theorem append_inj_of_byteLength {s s' t t' : List Char} (h : s ++ t = s' ++ t')
    (hlen : byteLength s = byteLength s') : s = s' ∧ t = t' := by
  rcases List.append_eq_append_iff.1 h with ⟨u, rfl, rfl⟩ | ⟨u, rfl, rfl⟩
  · have hu : u = [] := eq_nil_of_byteLength_eq_zero (by rw [byteLength_append] at hlen; omega)
    simp [hu]
  · have hu : u = [] := eq_nil_of_byteLength_eq_zero (by rw [byteLength_append] at hlen; omega)
    simp [hu]

theorem byteLength_concat (front : List Char) (c : Char) :
    byteLength (front ++ [c]) = byteLength front + c.utf8Size :=
  byteLength_append front [c]

/-! ## Parts of a text -/

section

variable {sql : String} {front rest : List Char}

theorem eq_append_of_toList_eq (h : sql.toList = front ++ rest) :
    sql = String.ofList front ++ String.ofList rest := by
  rw [← String.toList_inj, h, String.toList_append, String.toList_ofList, String.toList_ofList]

theorem isValid_byteLength (h : sql.toList = front ++ rest) :
    (String.Pos.Raw.mk (byteLength front)).IsValid sql := by
  refine String.Pos.Raw.isValid_iff_exists_append.2 ⟨_, _, eq_append_of_toList_eq h, ?_⟩
  rw [byteLength_eq_utf8ByteSize]
  rfl

theorem byteLength_le (h : sql.toList = front ++ rest) : byteLength front ≤ sql.utf8ByteSize := by
  rw [← byteLength_toList, h, byteLength_append]
  exact Nat.le_add_right _ _

theorem byteLength_lt {c : Char} (h : sql.toList = front ++ c :: rest) :
    byteLength front < sql.utf8ByteSize := by
  have hle := byteLength_le (h.trans (List.append_cons _ _ _))
  have hpos := c.utf8Size_pos
  rw [byteLength_concat] at hle
  omega

namespace Text

theorem splitAt?_of_append (h : sql.toList = front ++ rest) :
    splitAt? sql (byteLength front) = some (String.ofList front, String.ofList rest) :=
  splitAt?_eq_some_iff.2 ⟨eq_append_of_toList_eq h, (byteLength_eq_utf8ByteSize front).symm⟩

theorem before?_of_append (h : sql.toList = front ++ rest) :
    before? sql (byteLength front) = some (String.ofList front) := by
  rw [before?, splitAt?_of_append h]
  rfl

theorem from?_of_append (h : sql.toList = front ++ rest) :
    from? sql (byteLength front) = some (String.ofList rest) := by
  rw [from?, splitAt?_of_append h]
  rfl

theorem between?_of_append {part : List Char} (h : sql.toList = front ++ (part ++ rest)) :
    between? sql (byteLength front) (byteLength (front ++ part)) = some (String.ofList part) := by
  rw [← List.append_assoc] at h
  rw [between?, before?_of_append h, Option.bind_some, from?_of_append String.toList_ofList]

theorem charBefore?_of_append (h : sql.toList = front ++ rest) :
    charBefore? sql (byteLength front) = front.getLast? := by
  rw [charBefore?, before?_of_append h, Option.bind_some, String.toList_ofList]

theorem charAt?_of_append (h : sql.toList = front ++ rest) :
    charAt? sql (byteLength front) = rest.head? := by
  rw [charAt?, from?_of_append h, Option.bind_some, String.toList_ofList]

end Text

end

end SqlAccess

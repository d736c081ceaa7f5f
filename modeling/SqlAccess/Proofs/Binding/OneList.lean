import SqlAccess.Proofs.Binding.ListText
import SqlAccess.Proofs.SqlText.Extent

/-!
# One list among the placeholders of a text

A list written out on its own holds the placeholders of its items (`lexemes_listReference`). In the
place of the first placeholder of its name it holds the same ones, moved to that place, and all
other placeholders of the text stay: those in front where they are, those behind at the same
distance from the end of the list (`scan_replaceFirst_listReference`).
-/

namespace SqlAccess

variable {marker : Char} {sql name : String}

/-! ## The placeholders of the items -/

theorem namesOf_joined (names : List (List Char)) :
    namesOf (joined names) = names.map String.ofList := by
  fun_induction joined names with
  | case1 => rfl
  | case2 name => rfl
  | case3 name names hne ih =>
    rw [List.map_cons, ← ih]
    rfl

theorem namesOf_itemLexemes (name : String) (count : Nat) :
    namesOf (itemLexemes name count) = (List.range count).map (itemLabel name) := by
  by_cases hc : count = 0
  · rw [itemLexemes, if_pos hc, hc]
    rfl
  · rw [itemLexemes, if_neg hc, namesOf_joined, List.map_map]
    exact List.map_congr_left fun i _ => String.ofList_toList

section
variable (hm : IsMarker marker) (hne : name.toList ≠ [])
  (hw : ∀ c ∈ name.toList, isWordChar c = true)
include hm hne hw

/-- A name alone is read as a placeholder. -/
theorem fits_placeholder_alone : Fits marker .start (.placeholder name.toList) [] := by
  refine (fits_placeholder_iff hm).2 ⟨rfl, nofun, hne, hw, nofun, fun _ => ?_⟩
  refine dollarTag?_eq_none_iff.2 fun tag body happ _ => ?_
  -- a tag would put a dollar sign into the name
  have hd := hw '$' (by rw [← List.append_nil name.toList, happ]; simp)
  rw [isWordChar_dollar] at hd
  cases hd

/-- A list written out is read as its items. -/
theorem lexemes_listReference (count : Nat) :
    lexemes marker (listReference marker name count).toList = itemLexemes name count := by
  have hread := (standsFor_itemLexemes hm hne hw count).reads _ _
    (fits_placeholder_alone hm hne hw)
  exact lexemesFrom_eq_iff.2 ⟨(textOf_itemLexemes marker name count).symm, hread⟩

theorem scan_listReference (count : Nat) :
    scan (listReference marker name count) marker =
      placeholdersFrom marker 0 (itemLexemes name count) := by
  rw [scan, lexemes_listReference hm hne hw]

end

/-! ## In the place of a placeholder -/

/-- The character in front of a text's last part belongs to the last lexeme in front of it. -/
theorem getLast?_textOf {ctx : Context} {ls : List Lexeme} {u : List Char} {l : Lexeme}
    (h : Reads marker ctx ls u) (hl : ls.getLast? = some l) :
    (textOf marker ls).getLast? = (l.text marker).getLast? := by
  obtain ⟨pre, rfl⟩ := List.getLast?_eq_some_iff.1 hl
  exact getLast?_textOf_concat (reads_append.1 h).2.1.text_ne_nil

/-- Writing a list of `count` items out in the place of the first placeholder of its name, where
neither a dollar sign comes in front of it nor a quote behind it:
* the placeholders in front of it stay;
* in its place are the placeholders of the items, called by the list's name and their numbers, at
  the bytes at which the list written out on its own has them;
* the placeholders behind it are the same ones at the same distance: of `tail`, counted from the end
  of the placeholder, and now from the end of the list. -/
theorem scan_replaceFirst_listReference (hm : IsMarker marker) {before after : List Placeholder}
    {hit : Placeholder} (hscan : scan sql marker = before ++ hit :: after)
    (hfirst : ∀ p ∈ before, p.name ≠ hit.name)
    (hdollar : Text.charBefore? sql hit.start ≠ some '$')
    (hquote : Text.charAt? sql hit.stop ≠ some '\'') (count : Nat) :
    let reference := listReference marker hit.name count
    let items := (scan reference marker).map (·.shift hit.start)
    ∃ (rewritten : String) (tail : List Placeholder),
      replaceFirst sql marker (fullName marker hit.name) reference = some rewritten ∧
      items.map (·.name) = (List.range count).map (itemLabel hit.name) ∧
      after = tail.map (·.shift hit.stop) ∧
      scan rewritten marker =
        before ++ items ++ tail.map (·.shift (hit.start + reference.utf8ByteSize)) := by
  intro reference items
  obtain ⟨pre, post, h⟩ := exists_foundBetween hscan
  obtain ⟨-, -, hne, hw, -⟩ := h.fits.placeholder
  have hnot : .placeholder hit.name.toList ∉ pre := by
    intro hmem
    have hname : hit.name ∈ before.map (·.name) := by
      rw [h.before_eq, map_name_placeholdersFrom]
      exact mem_namesOf_iff.2 hmem
    obtain ⟨p, hp, hpn⟩ := List.mem_map.1 hname
    exact hfirst p hp hpn
  -- the characters on both sides of the hit
  have hfront : ∀ l, pre.getLast? = some l → (l.text marker).getLast? ≠ some '$' := by
    intro l hl
    rw [← getLast?_textOf (reads_append.1 h.reads).1 hl, ← h.charBefore?_start]
    exact hdollar
  have hbehind : (textOf marker post).head? ≠ some '\'' := by
    rw [← h.charAt?_stop]
    exact hquote
  -- the lexemes of the new text
  have hstands := standsFor_itemLexemes hm hne hw count
  have hins : textOf marker (itemLexemes hit.name count) = reference.toList :=
    textOf_itemLexemes marker hit.name count
  have hlex : lexemes marker (textOf marker (pre ++ (itemLexemes hit.name count ++ post))) =
      pre ++ (itemLexemes hit.name count ++ post) :=
    lexemesFrom_eq_iff.2 ⟨rfl, reads_expand_between hm hstands h.reads hfront hbehind⟩
  have hshift (ls : List Lexeme) : (placeholdersFrom marker 0 ls).map (·.shift hit.start) =
      placeholdersFrom marker hit.start ls := by
    rw [← placeholdersFrom_add, Nat.add_zero]
  have hitems : items = placeholdersFrom marker hit.start (itemLexemes hit.name count) := by
    rw [← hshift, ← scan_listReference hm hne hw]
  refine ⟨String.ofList (textOf marker (pre ++ (itemLexemes hit.name count ++ post))),
    placeholdersFrom marker 0 post, ?_, ?_, ?_, ?_⟩
  · simp [replaceFirst, fullName, h.lexemes_eq, ← hins, replaceFirstIn_append hnot]
  · rw [hitems, map_name_placeholdersFrom, namesOf_itemLexemes]
  · rw [h.after_eq, ← placeholdersFrom_add, Nat.add_zero]
  · rw [scan, String.toList_ofList, hlex, placeholdersFrom_append, placeholdersFrom_append,
      ← h.before_eq, List.map_append, ← h.start_eq, hshift, ← hitems, hins, byteLength_toList,
      List.map_map, List.append_assoc]
    congr 2
    refine List.map_congr_left fun p _ => ?_
    rw [Function.comp_apply, Placeholder.shift_shift]

/-- A list that stands in front of a placeholder with the name of one of its items. -/
theorem scan_replaceFirst_listReference_own_item_behind :
    let sql := "SELECT @b, '@ids' WHERE x IN (@ids) AND @ids_0 <> @ids"
    let hit : Placeholder := ⟨30, 34, "ids"⟩
    IsMarker '@' ∧
      scan sql '@' = [⟨7, 9, "b"⟩] ++ hit :: [⟨40, 46, "ids_0"⟩, ⟨50, 54, "ids"⟩] ∧
      Text.charBefore? sql hit.start ≠ some '$' ∧ Text.charAt? sql hit.stop ≠ some '\'' ∧
      ∃ rewritten, replaceFirst sql '@' "@ids" "@ids_0, @ids_1" = some rewritten ∧
        (scan rewritten '@').map (·.name) = ["b", "ids_0", "ids_1", "ids_0", "ids"] := by
  intro sql hit
  have hm : IsMarker '@' := ⟨by decide, by decide, by decide, by decide⟩
  have hscan : scan sql '@' = [⟨7, 9, "b"⟩] ++ hit :: [⟨40, 46, "ids_0"⟩, ⟨50, 54, "ids"⟩] := by
    decide +kernel
  have hdollar : Text.charBefore? sql hit.start ≠ some '$' := by decide +kernel
  have hquote : Text.charAt? sql hit.stop ≠ some '\'' := by decide +kernel
  obtain ⟨rewritten, tail, hr, hitems, htail, hnew⟩ :=
    scan_replaceFirst_listReference hm hscan (by decide) hdollar hquote 2
  have hfull : fullName '@' hit.name = "@ids" := by decide +kernel
  have hreference : listReference '@' hit.name 2 = "@ids_0, @ids_1" := by decide +kernel
  rw [hfull, hreference] at hr
  refine ⟨hm, hscan, hdollar, hquote, rewritten, hr, ?_⟩
  have hnames : tail.map (·.name) = ["ids_0", "ids"] := by
    have h := congrArg (List.map (·.name)) htail
    rw [List.map_map] at h
    exact h.symm
  rw [hnew, List.map_append, List.map_append, hitems, List.map_map]
  exact congrArg (["b"] ++ ["ids_0", "ids_1"] ++ ·) hnames

end SqlAccess

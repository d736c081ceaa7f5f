import SqlAccess.Proofs.SqlText.Locality
import SqlAccess.Proofs.SqlText.Span

/-!
# Complete texts

Behind a complete text every other one is read as if it stood alone (`Complete`), so its
placeholders are found as in itself, moved by the bytes in front (`Complete.scan_append`). Complete
texts put one behind the other are complete again (`Complete.append`). A text that ends in a blank
is complete if a placeholder put behind it is found there (`complete_of_closed`).
-/

namespace SqlAccess

variable {marker : Char} {ctx ctx' : Context} {l : Lexeme} {ls : List Lexeme}
  {s t u w : List Char}

/-! ## Contexts that leave no trace -/

namespace Context

/-- Nothing in front has a part in what comes: no word that could go on and no second marker. -/
structure Neutral (marker : Char) (ctx : Context) : Prop where
  inWord : ctx.inWord = false
  prev : ctx.prev ≠ some marker

theorem neutral_start (marker : Char) : start.Neutral marker :=
  ⟨rfl, by simp [start]⟩

theorem Neutral.opensEscapes (h : ctx.Neutral marker) : ctx.opensEscapes = false := by
  have hne (d : Char) (hd : isWordChar d = true) : (ctx.prev == some d) = false := by
    rw [beq_eq_false_iff_ne]
    intro hp
    have hw := h.inWord
    rw [Context.inWord, hp, Option.any_some, hd] at hw
    cases hw
  rw [Context.opensEscapes, hne 'E' (by decide), hne 'e' (by decide)]
  rfl

end Context

theorem nextLexeme_neutral (h : ctx.Neutral marker) (h' : ctx'.Neutral marker) (c : Char)
    (rest : List Char) : nextLexeme marker ctx c rest = nextLexeme marker ctx' c rest := by
  have hp : (ctx.prev != some marker) = (ctx'.prev != some marker) :=
    (bne_iff_ne.2 h.prev).trans (bne_iff_ne.2 h'.prev).symm
  rw [nextLexeme, nextLexeme, opensPlaceholder, opensPlaceholder, h.inWord, h'.inWord,
    h.opensEscapes, h'.opensEscapes, hp]

theorem Reads.congr_neutral (h : ctx.Neutral marker) (h' : ctx'.Neutral marker)
    (hr : Reads marker ctx ls u) : Reads marker ctx' ls u := by
  cases ls with
  | nil => trivial
  | cons l ls =>
    obtain ⟨⟨c, t, ht, hn⟩, hrest⟩ := hr
    refine ⟨⟨c, t, ht, ?_⟩, hrest.congr (Context.alike_after (h.inWord.trans h'.inWord.symm))⟩
    rw [← nextLexeme_neutral h h', hn]

theorem lexemesFrom_neutral (h : ctx.Neutral marker) (s : List Char) :
    lexemesFrom marker ctx s = lexemes marker s :=
  lexemesFrom_eq_iff.2 ⟨(lexemesFrom_text marker .start s).symm,
    (reads_lexemesFrom marker .start s).congr_neutral (Context.neutral_start marker) h⟩

/-! ## Complete texts -/

/-- Whatever comes behind `s` is read as if it stood alone. -/
def Complete (marker : Char) (s : List Char) : Prop :=
  ∀ u, lexemes marker (s ++ u) = lexemes marker s ++ lexemes marker u

@[simp] theorem lexemes_nil (marker : Char) : lexemes marker [] = [] := by
  simp [lexemes, lexemesFrom]

theorem complete_nil (marker : Char) : Complete marker [] := fun u => by simp

theorem Complete.append (hs : Complete marker s) (ht : Complete marker t) :
    Complete marker (s ++ t) := fun u => by
  rw [List.append_assoc, hs, ht, hs, List.append_assoc]

theorem lexemes_append_of_reads (h : Reads marker .start ls u)
    (hn : (Context.start.behind marker ls).Neutral marker) :
    lexemes marker (textOf marker ls ++ u) = ls ++ lexemes marker u := by
  rw [lexemes, lexemesFrom_of_reads h, lexemesFrom_neutral hn]

/-- Lexemes that are read in front of anything make up a complete text. -/
theorem complete_of_reads (h : ∀ u, Reads marker .start ls u)
    (hn : (Context.start.behind marker ls).Neutral marker) :
    Complete marker (textOf marker ls) ∧ lexemes marker (textOf marker ls) = ls := by
  have hls : lexemes marker (textOf marker ls) = ls := by
    simpa using lexemes_append_of_reads (h []) hn
  exact ⟨fun u => by rw [lexemes_append_of_reads (h u) hn, hls], hls⟩

theorem textOf_lexemes (marker : Char) (s : List Char) : textOf marker (lexemes marker s) = s :=
  lexemesFrom_text marker .start s

/-- Behind a complete text, placeholders are found as if it was not there, only later. -/
theorem Complete.scan_append {a : String} (ha : Complete marker a.toList) (b : String) :
    scan (a ++ b) marker = scan a marker ++ (scan b marker).map (·.shift a.utf8ByteSize) := by
  rw [scan, String.toList_append, ha, placeholdersFrom_append, textOf_lexemes, byteLength_toList]
  rfl

/-- Between `a` and `b` the text `r` is skipped: what is found is what is found in `a` and, moved,
what is found in `b`. -/
def Skipped (marker : Char) (a r b : String) : Prop :=
  scan (a ++ r ++ b) marker =
    scan a marker ++ (scan b marker).map (·.shift (a ++ r).utf8ByteSize)

instance (marker : Char) (a r b : String) : Decidable (Skipped marker a r b) :=
  inferInstanceAs (Decidable (_ = _))

@[simp] theorem scan_empty (marker : Char) : scan "" marker = [] := by
  simp [scan, placeholdersFrom]

theorem skipped_iff_of_empty {r b : String} :
    Skipped marker "" r b ↔
      scan (r ++ b) marker = (scan b marker).map (·.shift r.utf8ByteSize) := by
  simp [Skipped]

/-! ## Closed texts -/

/-- A placeholder called `z`, put behind `s`, is found there, and all others are those of `t`. -/
def FindsBehind (marker : Char) (s t : String) : Prop :=
  scan (s ++ String.ofList [marker, 'z']) marker =
    scan t marker ++ [⟨s.utf8ByteSize, s.utf8ByteSize + marker.utf8Size + 1, "z"⟩]

instance (marker : Char) (s t : String) : Decidable (FindsBehind marker s t) :=
  inferInstanceAs (Decidable (_ = _))

/-- A text is closed if a placeholder put behind it is found beside its own. -/
def Closed (marker : Char) (s : String) : Prop :=
  FindsBehind marker s s

instance (marker : Char) (s : String) : Decidable (Closed marker s) :=
  inferInstanceAs (Decidable (FindsBehind marker s s))

/-- A placeholder that is found behind a text is read there. -/
theorem FindsBehind.exists_reads {a b : String} (h : FindsBehind marker a b) :
    ∃ ls, textOf marker ls = a.toList ∧ Reads marker .start ls [marker, 'z'] := by
  have hmem : (⟨a.utf8ByteSize, a.utf8ByteSize + marker.utf8Size + 1, "z"⟩ : Placeholder) ∈
      scan (a ++ String.ofList [marker, 'z']) marker := by
    rw [h]
    simp
  obtain ⟨ls, post, hls, hstart⟩ := exists_of_mem_placeholdersFrom hmem
  have htext := textOf_lexemes marker (a ++ String.ofList [marker, 'z']).toList
  rw [hls, String.toList_append, textOf_append] at htext
  have hlen : byteLength (textOf marker ls) = byteLength a.toList := by
    rw [byteLength_toList]
    exact ((Nat.zero_add _).symm.trans hstart.symm)
  obtain ⟨ha, hz⟩ := append_inj_of_byteLength htext hlen
  have hread := reads_lexemesFrom marker .start (a ++ String.ofList [marker, 'z']).toList
  rw [← lexemes, hls] at hread
  refine ⟨ls, ha, ?_⟩
  have := (reads_append.1 hread).1
  rwa [hz, List.append_nil, String.toList_ofList] at this

theorem isWordChar_of_isBlank {c : Char} (h : Text.isBlank c = true) : isWordChar c = false := by
  obtain ⟨n, hn, rfl⟩ : ∃ n ∈ [9, 10, 11, 12, 13, 0x20, 0x85, 0xA0, 0x1680, 0x2000, 0x2001, 0x2002,
      0x2003, 0x2004, 0x2005, 0x2006, 0x2007, 0x2008, 0x2009, 0x200A, 0x2028, 0x2029, 0x202F,
      0x205F, 0x3000], c = Char.ofNat n := by
    refine ⟨c.toNat, ?_, (Char.ofNat_toNat c).symm⟩
    simp only [Text.isBlank, Bool.or_eq_true, Bool.and_eq_true, decide_eq_true_eq,
      beq_iff_eq] at h
    simp only [List.mem_cons, List.not_mem_nil, or_false]
    omega
  clear h
  revert n
  decide +kernel

/-! ## Texts that end in a blank -/

theorem IsMarker.ne_of_isBlank (hm : IsMarker marker) {c : Char} (hc : Text.isBlank c = true) :
    c ≠ marker := by
  rintro rfl
  rw [hm.not_blank] at hc
  cases hc

theorem Context.neutral_push {c : Char} (hw : isWordChar c = false) (hc : c ≠ marker)
    (ctx : Context) : (ctx.push c).Neutral marker :=
  ⟨hw, fun h => hc (Option.some.inj h)⟩

theorem Context.neutral_after_region (hm : IsMarker marker) (hd : marker ≠ '$') (ctx : Context)
    (kind : Region) (text : List Char) :
    (ctx.after marker (.region kind text)).Neutral marker := by
  refine neutral_push ?_ ?_ ctx
  · cases kind <;> decide
  · cases kind with
    | literal => exact hm.ne_quote.symm
    | quotedName => exact hm.ne_double_quote.symm
    | lineComment => exact hm.ne_of_isBlank (by decide)
    | blockComment => exact hm.ne_of_isBlank (by decide)
    | dollarBody => exact hd.symm

theorem fits_blank (hm : IsMarker marker) {c : Char} (hc : Text.isBlank c = true) (ctx : Context)
    (u : List Char) : Fits marker ctx (.plain c) u := by
  refine fits_plain_of_ne ?_ (by simp [opensPlaceholder, hm.ne_of_isBlank hc])
  refine ⟨?_, ?_, ?_, ?_, ?_⟩ <;> rintro rfl <;> revert hc <;> decide

/-- Of the lexemes, only plain characters and regions can end in a blank. -/
theorem Fits.ends_blank (hm : IsMarker marker) (h : Fits marker ctx l u)
    (hend : (l.text marker).getLast?.any Text.isBlank = true) :
    (∃ c, l = .plain c ∧ Text.isBlank c = true) ∨ ∃ kind text, l = .region kind text := by
  cases l with
  | plain c => exact .inl ⟨c, rfl, hend⟩
  | region kind text => exact .inr ⟨kind, text, rfl⟩
  | placeholder name =>
    obtain ⟨-, -, hne, hw, -, -⟩ := (fits_placeholder_iff hm).1 h
    rw [Lexeme.text, List.getLast?_cons_of_ne_nil hne, List.getLast?_eq_some_getLast hne,
      Option.any_some] at hend
    have := isWordChar_of_isBlank hend
    rw [hw _ (List.getLast_mem hne)] at this
    cases this

theorem getLast?_textOf_concat {pre : List Lexeme} (h : l.text marker ≠ []) :
    (textOf marker (pre ++ [l])).getLast? = (l.text marker).getLast? := by
  rw [textOf_append, textOf_cons, textOf_nil, List.append_nil, List.getLast?_append,
    List.getLast?_eq_some_getLast h, Option.some_or]

/-- A text behind which others can be put: it is empty, or it is closed and ends in a blank. -/
def Finished (marker : Char) (a : String) : Prop :=
  a = "" ∨ Closed marker a ∧ a.toList.getLast?.any Text.isBlank = true

/-- A finished text is complete, unless dollar signs mark placeholders. -/
theorem Finished.complete (hm : IsMarker marker) (hd : marker ≠ '$') {a : String}
    (ha : Finished marker a) : Complete marker a.toList := by
  rcases ha with rfl | ⟨hclosed, hblank⟩
  · exact complete_nil marker
  obtain ⟨ls, htext, hread⟩ := hclosed.exists_reads
  rcases List.eq_nil_or_concat ls with rfl | ⟨pre, l, rfl⟩
  · rw [← htext] at hblank
    cases hblank
  rw [List.concat_eq_append] at htext hread
  obtain ⟨-, hfits, -⟩ := reads_append.1 hread
  rw [← htext, getLast?_textOf_concat hfits.text_ne_nil] at hblank
  have hlast := hfits.ends_blank hm hblank
  have hneutral : (Context.start.behind marker (pre ++ [l])).Neutral marker := by
    rw [Context.behind_concat]
    rcases hlast with ⟨c, rfl, hc⟩ | ⟨kind, text, rfl⟩
    · exact Context.neutral_push (isWordChar_of_isBlank hc) (hm.ne_of_isBlank hc) _
    · exact Context.neutral_after_region hm hd _ kind text
  rw [← htext]
  refine (complete_of_reads (fun u => ?_) hneutral).1
  refine hread.change_last hm hneutral.inWord ?_
  intro pre' l' he hfits
  obtain ⟨rfl, he⟩ := List.append_inj' he rfl
  obtain rfl : l = l' := by simpa using he
  rcases hlast with ⟨c, rfl, hc⟩ | ⟨kind, text, rfl⟩
  · exact fits_blank hm hc _ u
  · exact hfits.region (by simp) u

end SqlAccess

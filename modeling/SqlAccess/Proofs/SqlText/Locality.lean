import SqlAccess.Proofs.SqlText.Reading

/-!
# What lexemes depend on

Looking back, a text sees no more than whether it is in a word, which character comes before it
and whether a word ends before that (`Reads.congr`); in the middle of a word it sees only that, up
to a quote (`Reads.congr_inWord`). Looking ahead, lexemes see no further than the first character
that is not part of a word (`Fits.change_behind`). So the text behind several lexemes may change as
far as the last of them lets it (`Reads.change_last`): where a placeholder starts, a word or a
marker may take its place (`Reads.change_next`).
-/

namespace SqlAccess

variable {marker : Char} {ctx ctx' : Context} {l : Lexeme} {ls : List Lexeme}
  {s u w : List Char}

/-! ## Looking back -/

namespace Context

/-- The text behind the two contexts cannot tell them apart. -/
def Alike (ctx ctx' : Context) : Prop :=
  ctx.prev = ctx'.prev ∧ ctx.before.any isWordChar = ctx'.before.any isWordChar

theorem Alike.foldl_push (h : ctx.Alike ctx') (s : List Char) :
    (s.foldl push ctx).Alike (s.foldl push ctx') := by
  induction s generalizing ctx ctx' with
  | nil => exact h
  | cons c s ih => exact ih ⟨rfl, congrArg (Option.any isWordChar) h.1⟩

/-- Of what comes before a lexeme, the text behind it sees no more than whether that was a word. -/
theorem alike_after (h : ctx.inWord = ctx'.inWord) :
    (ctx.after marker l).Alike (ctx'.after marker l) := by
  have hpush (c : Char) : (ctx.push c).Alike (ctx'.push c) := ⟨rfl, h⟩
  cases l with
  | plain c => exact hpush c
  | region kind text => exact hpush kind.trace
  | placeholder name => exact (hpush marker).foldl_push name

end Context

theorem nextLexeme_congr (h : ctx.Alike ctx') (c : Char) (rest : List Char) :
    nextLexeme marker ctx c rest = nextLexeme marker ctx' c rest := by
  have hw : ctx.inWord = ctx'.inWord := congrArg (Option.any isWordChar) h.1
  have he : ctx.opensEscapes = ctx'.opensEscapes := by
    simp only [Context.opensEscapes, h.1, h.2]
  rw [nextLexeme, nextLexeme, opensPlaceholder, opensPlaceholder, hw, he, h.1]

theorem Reads.congr (h : ctx.Alike ctx') (hr : Reads marker ctx ls u) :
    Reads marker ctx' ls u := by
  induction ls generalizing ctx ctx' with
  | nil => trivial
  | cons l ls ih =>
    obtain ⟨⟨c, t, ht, hn⟩, hrest⟩ := hr
    refine ⟨⟨c, t, ht, ?_⟩, ih (h.foldl_push _) hrest⟩
    rw [← nextLexeme_congr h, hn]

theorem nextLexeme_inWord (h : ctx.inWord = true) (h' : ctx'.inWord = true) {c : Char}
    (hc : c ≠ '\'') (rest : List Char) :
    nextLexeme marker ctx c rest = nextLexeme marker ctx' c rest := by
  simp [nextLexeme, hc, opensPlaceholder, h, h']

/-- In the middle of a word, it does not matter in which one, unless a quote comes next. -/
theorem Reads.congr_inWord (h : ctx.inWord = true) (h' : ctx'.inWord = true)
    (hq : (textOf marker ls).head? ≠ some '\'') (hr : Reads marker ctx ls u) :
    Reads marker ctx' ls u := by
  cases ls with
  | nil => trivial
  | cons l ls =>
    obtain ⟨⟨c, t, ht, hn⟩, hrest⟩ := hr
    have hc : c ≠ '\'' := by
      rintro rfl
      exact hq (by rw [textOf_cons, ht]; rfl)
    refine ⟨⟨c, t, ht, ?_⟩, hrest.congr (Context.alike_after (h.trans h'.symm))⟩
    rw [← nextLexeme_inWord h h' hc, hn]

/-! ## Looking ahead -/

/-- A character of a word starts neither a region nor a placeholder. -/
theorem nextLexeme_of_word (hm : IsMarker marker) {c : Char} (hc : isWordChar c = true)
    (rest : List Char) : nextLexeme marker ctx c rest = (.plain c, rest) := by
  have hne (d : Char) (hd : isWordChar d = false) : c ≠ d := by
    rintro rfl
    rw [hc] at hd
    cases hd
  have hopen : opensPlaceholder marker ctx c rest = false := by
    simp [opensPlaceholder, hne marker hm.not_word]
  simp [nextLexeme, hopen, hne '\'' (by decide), hne '"' (by decide), hne '-' (by decide),
    hne '/' (by decide), hne '$' (by decide)]

/-- A word is read character by character. -/
theorem reads_word (hm : IsMarker marker) {s : List Char} (hw : ∀ c ∈ s, isWordChar c = true) :
    Reads marker ctx (s.map .plain) u := by
  induction s generalizing ctx with
  | nil => trivial
  | cons c s ih =>
    refine ⟨⟨c, [], rfl, nextLexeme_of_word hm (hw c List.mem_cons_self) _⟩, ih fun d hd => ?_⟩
    exact hw d (List.mem_cons_of_mem c hd)

/-- A lexeme that does not end in a word holds a character that is not part of one. -/
theorem Fits.exists_not_word (hm : IsMarker marker) (h : Fits marker ctx l w)
    (hctx : (ctx.after marker l).inWord = false) :
    ∃ c ∈ l.text marker, isWordChar c = false := by
  cases l with
  | plain c => exact ⟨c, List.mem_cons_self, hctx⟩
  | placeholder name => exact ⟨marker, List.mem_cons_self, hm.not_word⟩
  | region kind text =>
    obtain ⟨c, t, rfl : text = c :: t, hn⟩ := h
    refine ⟨c, List.mem_cons_self, ?_⟩
    by_contra hc
    rw [nextLexeme_of_word hm (by simpa using hc)] at hn
    cases hn

theorem Reads.exists_not_word (hm : IsMarker marker) (h : Reads marker ctx ls w) (hne : ls ≠ [])
    (hctx : (ctx.behind marker ls).inWord = false) :
    ∃ c ∈ textOf marker ls, isWordChar c = false := by
  induction ls generalizing ctx with
  | nil => exact absurd rfl hne
  | cons l ls ih =>
    by_cases hls : ls = []
    · subst hls
      obtain ⟨c, hc, hcw⟩ := h.1.exists_not_word hm hctx
      exact ⟨c, by simpa using hc, hcw⟩
    · obtain ⟨c, hc, hcw⟩ := ih h.2 hls hctx
      exact ⟨c, List.mem_append_right _ hc, hcw⟩

theorem head?_append_congr (hs : s ≠ []) : (s ++ u).head? = (s ++ w).head? := by
  obtain ⟨c, t, rfl⟩ := List.exists_cons_of_ne_nil hs
  rfl

/-- Behind a character that is not part of a word, the text may change. -/
theorem Fits.change_behind (hm : IsMarker marker) (hs : ∃ c ∈ s, isWordChar c = false)
    (h : Fits marker ctx l (s ++ w)) (u : List Char) : Fits marker ctx l (s ++ u) := by
  have hne : s ≠ [] := by
    obtain ⟨c, hc, -⟩ := hs
    exact List.ne_nil_of_mem hc
  have hhead : (s ++ u).head? = (s ++ w).head? := head?_append_congr hne
  cases l with
  | region kind text => exact h.region (List.append_ne_nil_of_left_ne_nil hne w) _
  | plain c =>
    obtain ⟨hq, hqq, hdash, hslash, hdollar, hopen⟩ := fits_plain_iff.1 h
    refine fits_plain_iff.2 ⟨hq, hqq, by rwa [hhead], by rwa [hhead], ?_, ?_⟩
    · intro hc hctx
      exact dollarTag?_none_of_append hs (hdollar hc hctx) u
    · rw [opensPlaceholder] at hopen ⊢
      rwa [hhead]
  | placeholder name =>
    obtain ⟨hctx, hprev, hname, hw, hbehind, hdollar⟩ := (fits_placeholder_iff hm).1 h
    refine (fits_placeholder_iff hm).2 ⟨hctx, hprev, hname, hw, by rwa [hhead], ?_⟩
    intro hd
    have hns : ∃ c ∈ name ++ s, isWordChar c = false := by
      obtain ⟨c, hc, hcw⟩ := hs
      exact ⟨c, List.mem_append_right name hc, hcw⟩
    have hdollar := hdollar hd
    rw [← List.append_assoc] at hdollar ⊢
    exact dollarTag?_none_of_append hns hdollar u

/-- In front of a placeholder, the text may change to another one or to a word. -/
theorem Fits.change_next (hm : IsMarker marker) (h : Fits marker ctx l w)
    (hw : w.head? = some marker) (hctx : (ctx.after marker l).inWord = false)
    (hprev : (ctx.after marker l).prev ≠ some marker)
    (hd : (l.text marker).getLast? ≠ some '$')
    (hu : ∀ c, u.head? = some c → c = marker ∨ isWordChar c = true) :
    Fits marker ctx l u := by
  cases l with
  | region kind text => exact h.region (by rintro rfl; cases hw) u
  | placeholder name =>
    obtain ⟨-, -, hname, hword, -, -⟩ := (fits_placeholder_iff hm).1 h
    rw [Context.inWord_after_placeholder marker ctx hname hword] at hctx
    cases hctx
  | plain c =>
    obtain ⟨hq, hqq, hdash, hslash, -, -⟩ := fits_plain_iff.1 h
    -- a character that is not part of a word and starts `u` starts `w` too
    have hsame {d : Char} (hdw : isWordChar d = false) (hud : u.head? = some d) :
        w.head? = some d := by
      rcases hu d hud with rfl | hdw'
      · exact hw
      · rw [hdw] at hdw'
        cases hdw'
    have hc : c ≠ marker := fun hc => hprev (congrArg some hc)
    refine fits_plain_iff.2 ⟨hq, hqq, ?_, ?_, ?_, ?_⟩
    · intro hc hhead
      exact hdash hc (hsame (by decide) hhead)
    · intro hc hhead
      exact hslash hc (hsame (by decide) hhead)
    · rintro rfl
      exact absurd rfl hd
    · simp [opensPlaceholder, hc]

/-- Behind lexemes that do not end in a word, the text may change as far as the last of them lets
it. -/
theorem Reads.change_last (hm : IsMarker marker) (h : Reads marker ctx ls w)
    (hctx : (ctx.behind marker ls).inWord = false)
    (hlast : ∀ pre l, ls = pre ++ [l] → Fits marker (ctx.behind marker pre) l w →
      Fits marker (ctx.behind marker pre) l u) :
    Reads marker ctx ls u := by
  induction ls generalizing ctx with
  | nil => trivial
  | cons l ls ih =>
    by_cases hls : ls = []
    · subst hls
      exact ⟨hlast [] l rfl h.1, trivial⟩
    · refine ⟨h.1.change_behind hm (h.2.exists_not_word hm hls hctx) u, ih h.2 hctx ?_⟩
      rintro pre l' rfl
      exact hlast (l :: pre) l' rfl

/-- What is read in front of a placeholder is read there in front of another one, or of a word. -/
theorem Reads.change_next (hm : IsMarker marker) (h : Reads marker ctx ls w)
    (hw : w.head? = some marker) (hctx : (ctx.behind marker ls).inWord = false)
    (hprev : (ctx.behind marker ls).prev ≠ some marker)
    (hd : ∀ l, ls.getLast? = some l → (l.text marker).getLast? ≠ some '$')
    (hu : ∀ c, u.head? = some c → c = marker ∨ isWordChar c = true) :
    Reads marker ctx ls u := by
  refine h.change_last hm hctx ?_
  rintro pre l rfl hfits
  rw [Context.behind_concat] at hctx hprev
  exact hfits.change_next hm hw hctx hprev (hd l List.getLast?_concat) hu

end SqlAccess

import SqlAccess.Proofs.SqlText.Complete

/-!
# Settled texts

Behind a settled text a blank or a closing parenthesis is plain, and everything behind that is read
as if it stood alone (`Settled`). A text is settled if a placeholder put behind it and a blank is
found there (`settled_of_findsBehind`). Settled texts can be joined by blanks and put into
parentheses, and their placeholders stay what they are (`Yields.join`, `Yields.parenthesized`).
-/

namespace SqlAccess

variable {marker : Char} {ctx : Context} {l : Lexeme} {ls : List Lexeme} {s t u w : List Char}

/-! ## Where closed regions end -/

/-- The last character of a region that is closed. -/
def Region.stop : Region → Char
  | .literal => '\''
  | .quotedName => '"'
  | .lineComment => '\n'
  | .blockComment => '/'
  | .dollarBody => '$'

theorem Fits.suffix_region {kind : Region} {text : List Char}
    (h : Fits marker ctx (.region kind text) w) (hw : w ≠ []) : [kind.stop] <:+ text := by
  obtain ⟨c, t, rfl : text = c :: t, h⟩ := h
  unfold nextLexeme at h
  split at h
  · obtain ⟨hl, hrest⟩ := Prod.mk.inj h
    obtain ⟨rfl, hs⟩ := Lexeme.region.inj hl
    rw [← hs]
    exact (suffix_splitLiteral (hrest.trans_ne hw)).trans (List.suffix_cons c _)
  split at h
  · obtain ⟨hl, hrest⟩ := Prod.mk.inj h
    obtain ⟨rfl, hs⟩ := Lexeme.region.inj hl
    rw [← hs]
    exact (suffix_splitThrough (hrest.trans_ne hw)).trans (List.suffix_cons c _)
  split at h
  · obtain ⟨hl, hrest⟩ := Prod.mk.inj h
    obtain ⟨rfl, hs⟩ := Lexeme.region.inj hl
    rw [← hs]
    exact (suffix_splitThrough (hrest.trans_ne hw)).trans (List.suffix_cons c _)
  split at h
  · obtain ⟨hl, hrest⟩ := Prod.mk.inj h
    obtain ⟨rfl, hs⟩ := Lexeme.region.inj hl
    rw [← hs]
    exact (suffix_splitComment (hrest.trans_ne hw)).trans (List.suffix_append [c, '*'] _)
  split at h
  · next name body htag =>
    obtain ⟨hl, hrest⟩ := Prod.mk.inj h
    obtain ⟨rfl, hs⟩ := Lexeme.region.inj hl
    rw [← hs]
    have hstop : ['$'] <:+ '$' :: name ++ ['$'] := List.suffix_append _ _
    exact (hstop.trans (suffix_splitBehind (hrest.trans_ne hw))).trans (List.suffix_append _ _)
  · split at h <;> cases h

/-! ## In front of a blank or a closing parenthesis -/

/-- Either nothing comes, or a blank or a closing parenthesis first. -/
def Delimited (u : List Char) : Prop :=
  ∀ c, u.head? = some c → c = ' ' ∨ c = ')'

theorem delimited_nil : Delimited [] := by
  rintro c ⟨⟩

theorem delimited_cons {d : Char} (h : d = ' ' ∨ d = ')') (u : List Char) : Delimited (d :: u) := by
  rintro c ⟨⟩
  exact h

theorem Delimited.not_word (hu : Delimited u) {c : Char} (hc : u.head? = some c) :
    isWordChar c = false := by
  rcases hu c hc with rfl | rfl <;> decide

/-- Other characters do not tell delimited texts apart. -/
theorem Delimited.head?_append (hu : Delimited u) {c : Char} (hblank : c ≠ ' ') (hparen : c ≠ ')')
    (h : (s ++ u).head? = some c) (w : List Char) : (s ++ w).head? = some c := by
  cases s with
  | nil => rcases hu c h with rfl | rfl <;> contradiction
  | cons d s => exact h

theorem dollarTag?_delimited (hu : Delimited u) (h : dollarTag? (s ++ w) = none) :
    dollarTag? (s ++ u) = none := by
  refine dollarTag?_eq_none_iff.2 fun name body happ htag => ?_
  have hdollar : u.head? ≠ some '$' := fun hd => by rcases hu _ hd with h | h <;> cases h
  rcases List.append_eq_append_iff.1 happ with ⟨t, rfl, hu'⟩ | ⟨t, rfl, ht⟩
  · cases t with
    | nil => exact hdollar (congrArg List.head? hu')
    | cons d t =>
      have hd := htag.1 d (List.mem_append_right _ List.mem_cons_self)
      rw [hu.not_word (by rw [hu']; rfl)] at hd
      cases hd
  · cases t with
    | nil => exact hdollar (congrArg List.head? ht.symm)
    | cons d t =>
      obtain ⟨rfl, -⟩ := List.cons.inj ht
      exact dollarTag?_eq_none_iff.1 h name (t ++ w) (by simp) htag

theorem Fits.change_delimited (hm : IsMarker marker) (h : Fits marker ctx l (s ++ w))
    (hw : w ≠ []) (hu : Delimited u) : Fits marker ctx l (s ++ u) := by
  cases l with
  | region kind text => exact h.region (List.append_ne_nil_of_right_ne_nil s hw) _
  | plain c =>
    obtain ⟨hq, hqq, hdash, hslash, hdollar, hopen⟩ := fits_plain_iff.1 h
    refine fits_plain_iff.2 ⟨hq, hqq, fun hc hh => ?_, fun hc hh => ?_, fun hc hctx => ?_, ?_⟩
    · exact hdash hc (hu.head?_append (by decide) (by decide) hh w)
    · exact hslash hc (hu.head?_append (by decide) (by decide) hh w)
    · exact dollarTag?_delimited hu (hdollar hc hctx)
    · cases s with
      | nil =>
        have hno : u.head?.any isWordChar = false := by
          cases hd : u.head? with
          | none => rfl
          | some d => exact hu.not_word hd
        simp [opensPlaceholder, hno]
      | cons d s => exact hopen
  | placeholder name =>
    obtain ⟨hctx, hprev, hname, hword, hbehind, hdollar⟩ := (fits_placeholder_iff hm).1 h
    refine (fits_placeholder_iff hm).2 ⟨hctx, hprev, hname, hword, fun c hc => ?_, fun hd => ?_⟩
    · cases s with
      | nil => exact hu.not_word hc
      | cons d s => exact hbehind c hc
    · have := hdollar hd
      rw [← List.append_assoc] at this ⊢
      exact dollarTag?_delimited hu this

theorem Reads.change_delimited (hm : IsMarker marker) (h : Reads marker ctx ls w) (hw : w ≠ [])
    (hu : Delimited u) : Reads marker ctx ls u := by
  induction ls generalizing ctx with
  | nil => trivial
  | cons l ls ih => exact ⟨h.1.change_delimited hm hw hu, ih h.2⟩

/-! ## Settled texts -/

/-- Behind `s` a blank or a closing parenthesis is plain, and what comes then is read as if it stood
alone. -/
def Settled (marker : Char) (s : List Char) : Prop :=
  ∀ d u, d = ' ' ∨ d = ')' →
    lexemes marker (s ++ d :: u) = lexemes marker s ++ .plain d :: lexemes marker u

theorem fits_delimiter {d : Char} (h : d = ' ' ∨ d = '(' ∨ d = ')') (hd : d ≠ marker)
    (ctx : Context) (u : List Char) : Fits marker ctx (.plain d) u := by
  refine fits_plain_of_ne ?_ (by simp [opensPlaceholder, hd])
  rcases h with rfl | rfl | rfl <;> decide

theorem neutral_push_delimiter {d : Char} (h : d = ' ' ∨ d = '(' ∨ d = ')') (hd : d ≠ marker)
    (ctx : Context) : (ctx.push d).Neutral marker := by
  refine Context.neutral_push ?_ hd ctx
  rcases h with rfl | rfl | rfl <;> decide

theorem lexemes_cons_delimiter {d : Char} (h : d = ' ' ∨ d = '(' ∨ d = ')') (hd : d ≠ marker)
    (u : List Char) : lexemes marker (d :: u) = .plain d :: lexemes marker u := by
  have hread : Reads marker .start [.plain d] u := ⟨fits_delimiter h hd _ _, trivial⟩
  exact lexemes_append_of_reads hread (neutral_push_delimiter h hd _)

section
variable (hm : IsMarker marker) (hp : marker ≠ ')')
include hm hp

theorem ne_marker_of_delimiter {d : Char} (h : d = ' ' ∨ d = ')') : d ≠ marker := by
  rcases h with rfl | rfl
  · exact hm.ne_of_isBlank (by decide)
  · exact hp.symm

/-- What is read in front of a delimiter is settled. -/
theorem settled_of_reads (h : ∀ u, Delimited u → Reads marker .start ls u) :
    Settled marker (textOf marker ls) ∧ lexemes marker (textOf marker ls) = ls := by
  have hls : lexemes marker (textOf marker ls) = ls := by
    have := lexemesFrom_of_reads (h [] delimited_nil)
    rwa [List.append_nil, lexemesFrom, List.append_nil] at this
  refine ⟨fun d u hd => ?_, hls⟩
  have hne := ne_marker_of_delimiter hm hp hd
  have hd' : d = ' ' ∨ d = '(' ∨ d = ')' := hd.imp_right .inr
  have hread : Reads marker .start (ls ++ [.plain d]) u :=
    reads_append.2 ⟨h _ (delimited_cons hd u), fits_delimiter hd' hne _ _, trivial⟩
  have hneutral : (Context.start.behind marker (ls ++ [.plain d])).Neutral marker := by
    rw [Context.behind_concat]
    exact neutral_push_delimiter hd' hne _
  have := lexemes_append_of_reads hread hneutral
  simpa [hls, Lexeme.text] using this

/-- A text behind which, after a blank, a placeholder is found is settled. -/
theorem settled_of_findsBehind {c : String} (h : FindsBehind marker (c ++ " ") c) :
    Settled marker c.toList := by
  obtain ⟨ls, htext, hread⟩ := h.exists_reads
  rw [String.toList_append] at htext
  change textOf marker ls = c.toList ++ [' '] at htext
  rcases List.eq_nil_or_concat ls with rfl | ⟨pre, l, rfl⟩
  · simp at htext
  rw [List.concat_eq_append] at htext hread
  obtain ⟨hpre, hlast, -⟩ := reads_append.1 hread
  -- no other lexeme ends in a blank
  have hl : l = .plain ' ' := by
    have hend : (l.text marker).getLast? = some ' ' := by
      rw [← getLast?_textOf_concat hlast.text_ne_nil, htext, List.getLast?_concat]
    rcases hlast.ends_blank hm (by rw [hend]; decide) with ⟨d, rfl, -⟩ | ⟨kind, text, rfl⟩
    · obtain rfl : d = ' ' := Option.some.inj hend
      rfl
    · obtain ⟨t, ht⟩ := hlast.suffix_region (by simp)
      change text.getLast? = some ' ' at hend
      rw [← ht, List.getLast?_concat] at hend
      cases kind <;> cases hend
  subst hl
  rw [textOf_append] at htext
  obtain ⟨hc, -⟩ := List.append_inj' htext rfl
  rw [← hc]
  exact (settled_of_reads hm hp fun u hu => hpre.change_delimited hm (by simp) hu).1

end

/-! ## Joining settled texts -/

/-- A settled text with placeholders of the given names. -/
structure Yields (marker : Char) (s : List Char) (names : List String) : Prop where
  settled : Settled marker s
  names_eq : namesOf (lexemes marker s) = names

section
variable {ns ms : List String}

/-- Between settled texts a blank keeps their placeholders apart. -/
theorem Yields.join (hs : Yields marker s ns) (ht : Yields marker t ms) :
    Yields marker (s ++ ' ' :: t) (ns ++ ms) where
  settled d u hd := by
    rw [List.append_assoc, List.cons_append, hs.settled _ _ (.inl rfl), ht.settled d u hd,
      hs.settled _ _ (.inl rfl), List.append_assoc]
    rfl
  names_eq := by
    rw [hs.settled _ _ (.inl rfl), namesOf_append, hs.names_eq, ← ht.names_eq]
    rfl

section
variable (hm : IsMarker marker)
include hm

/-- Parentheses around a settled text change nothing about its placeholders. -/
theorem Yields.parenthesized (ho : marker ≠ '(') (hp : marker ≠ ')') (hs : Yields marker s ns) :
    Yields marker ('(' :: s ++ [')']) ns where
  settled d u hd := by
    have hd' : d = ' ' ∨ d = '(' ∨ d = ')' := hd.imp_right .inr
    have hne := ne_marker_of_delimiter hm hp hd
    have htext : '(' :: s ++ [')'] ++ d :: u = '(' :: (s ++ ')' :: d :: u) := by simp
    rw [htext, lexemes_cons_delimiter (.inr (.inl rfl)) ho.symm, hs.settled _ _ (.inr rfl),
      lexemes_cons_delimiter hd' hne, List.cons_append,
      lexemes_cons_delimiter (.inr (.inl rfl)) ho.symm, hs.settled _ _ (.inr rfl), lexemes_nil]
    simp
  names_eq := by
    rw [List.cons_append, lexemes_cons_delimiter (.inr (.inl rfl)) ho.symm,
      hs.settled _ _ (.inr rfl), lexemes_nil, ← hs.names_eq]
    show namesOf (lexemes marker s ++ [.plain ')']) = _
    rw [namesOf_append]
    exact List.append_nil _

/-- A word is settled and no placeholder. -/
theorem yields_word (hp : marker ≠ ')') (hw : ∀ c ∈ s, isWordChar c = true) :
    Yields marker s [] := by
  have htext : textOf marker (s.map .plain) = s := by
    induction s with
    | nil => rfl
    | cons c s ih => simpa [Lexeme.text] using ih fun d hd => hw d (List.mem_cons_of_mem c hd)
  have hread (u : List Char) : Reads marker .start (s.map .plain) u := reads_word hm hw
  obtain ⟨hs, hl⟩ := settled_of_reads hm hp fun u _ => hread u
  rw [htext] at hs hl
  refine ⟨hs, ?_⟩
  rw [hl, namesOf, List.filterMap_map]
  exact List.filterMap_eq_nil_iff.2 fun _ _ => rfl

/-- A text behind which a placeholder is found has the placeholders that are found in it. -/
theorem yields_of_findsBehind (hp : marker ≠ ')') {c : String}
    (h : FindsBehind marker (c ++ " ") c) :
    Yields marker c.toList ((scan c marker).map (·.name)) :=
  ⟨settled_of_findsBehind hm hp h, (map_name_scan c marker).symm⟩

end

end

end SqlAccess

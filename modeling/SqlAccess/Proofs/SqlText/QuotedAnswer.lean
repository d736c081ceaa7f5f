import SqlAccess.Proofs.SqlText.Expansion
import SqlAccess.Proofs.SqlText.Inert

/-!
# Quoted text in the place of placeholders

Let every placeholder be set off from what comes behind it, and let all answers be quoted text. Then
rendering is invisible to a second reading: in front of an answer a quote is as good as the marker
(`Fits.change_quote`), an answer is complete, and behind it the text is read as at its start
(`Reads.of_setOff`). So the lexemes of the rendered text are those of the text, with the lexemes of
an answer where a placeholder has one (`lexemesFrom_rendered`), and the placeholders that are found
are the ones without an answer, where the rendered text has them (`scan_substitute`).
-/

namespace SqlAccess

variable {marker : Char} {ctx : Context} {l : Lexeme} {pre ls : List Lexeme} {s u w : List Char}
  {render : String → Option String}

/-! ## Placeholders that are set off -/

/-- A character that sets off a placeholder in front of it. -/
def setsOff (c : Char) : Bool :=
  Text.isBlank c || c == ',' || c == ')'

/-- Two neighbours of which the first is no placeholder, or the second sets it off. -/
def Lexeme.SetOff (marker : Char) (l l' : Lexeme) : Prop :=
  l.isPlaceholder = true → (l'.text marker).head?.any setsOff = true

instance (marker : Char) : DecidableRel (Lexeme.SetOff marker) := fun l _ =>
  inferInstanceAs (Decidable (l.isPlaceholder = true → _))

/-- Behind every placeholder comes a blank, a comma, a closing parenthesis or nothing. -/
def SetOff (marker : Char) (ls : List Lexeme) : Prop :=
  ls.IsChain (Lexeme.SetOff marker)

instance (marker : Char) (ls : List Lexeme) : Decidable (SetOff marker ls) :=
  inferInstanceAs (Decidable (ls.IsChain _))

/-- A character that can mark placeholders and sets off none. -/
structure IsLogMarker (marker : Char) : Prop extends IsMarker marker where
  ne_dollar : marker ≠ '$'
  ne_comma : marker ≠ ','
  ne_parenthesis : marker ≠ ')'

theorem isWordChar_of_setsOff {c : Char} (h : setsOff c = true) : isWordChar c = false := by
  simp only [setsOff, Bool.or_eq_true, beq_iff_eq] at h
  rcases h with (h | rfl) | rfl
  · exact isWordChar_of_isBlank h
  · decide
  · decide

theorem IsLogMarker.ne_of_setsOff (hm : IsLogMarker marker) {c : Char} (h : setsOff c = true) :
    c ≠ marker := by
  simp only [setsOff, Bool.or_eq_true, beq_iff_eq] at h
  rcases h with (h | rfl) | rfl
  · exact hm.ne_of_isBlank h
  · exact hm.ne_comma.symm
  · exact hm.ne_parenthesis.symm

theorem fits_setsOff (hm : IsLogMarker marker) {c : Char} (h : setsOff c = true) (ctx : Context)
    (u : List Char) : Fits marker ctx (.plain c) u := by
  refine fits_plain_of_ne ?_ (by simp [opensPlaceholder, hm.ne_of_setsOff h])
  refine ⟨?_, ?_, ?_, ?_, ?_⟩ <;> rintro rfl <;> revert h <;> decide

theorem Fits.eq_plain (hm : IsLogMarker marker) (h : Fits marker ctx l u)
    (hoff : (l.text marker).head?.any setsOff = true) : ∃ c, l = .plain c ∧ setsOff c = true := by
  obtain ⟨c, t, ht, hn⟩ := h
  rw [ht] at hoff
  have hc : setsOff c = true := hoff
  obtain ⟨d, t', hd, hn'⟩ := fits_setsOff hm hc ctx (t ++ u)
  obtain ⟨rfl, rfl⟩ := List.cons.inj hd
  exact ⟨c, (Prod.mk.inj (hn.symm.trans hn')).1, hc⟩

/-- What comes behind a placeholder that is set off is read as at the start of a text. -/
theorem Reads.of_setOff (hm : IsLogMarker marker) (h : Reads marker ctx ls u)
    (hoff : ∀ l ∈ ls.head?, (l.text marker).head?.any setsOff = true) :
    Reads marker .start ls u := by
  cases ls with
  | nil => trivial
  | cons l ls =>
    obtain ⟨hfits, hrest⟩ := h
    obtain ⟨c, rfl, hc⟩ := hfits.eq_plain hm (hoff l rfl)
    have hneutral (ctx : Context) : (ctx.push c).Neutral marker :=
      Context.neutral_push (isWordChar_of_setsOff hc) (hm.ne_of_setsOff hc) ctx
    exact ⟨fits_setsOff hm hc _ _, hrest.congr_neutral (hneutral _) (hneutral _)⟩

/-! ## Quotes in the place of markers -/

/-- In front of a placeholder, the text may change to one that starts with a quote. -/
theorem Fits.change_quote (hm : IsMarker marker) (h : Fits marker ctx l w)
    (hw : w.head? = some marker) (hctx : (ctx.after marker l).inWord = false)
    (hprev : (ctx.after marker l).prev ≠ some marker) (u : List Char) :
    Fits marker ctx l ('\'' :: u) := by
  cases l with
  | region kind text => exact h.region (by rintro rfl; cases hw) _
  | placeholder name =>
    obtain ⟨-, -, hname, hword, -, -⟩ := (fits_placeholder_iff hm).1 h
    rw [Context.inWord_after_placeholder marker ctx hname hword] at hctx
    cases hctx
  | plain c =>
    obtain ⟨hq, hqq, -, -, -, -⟩ := fits_plain_iff.1 h
    have hc : c ≠ marker := fun hc => hprev (congrArg some hc)
    have hquote : dollarTag? ('\'' :: u) = none := by
      have hnot : Text.isAlphabetic '\'' = false := by decide
      simp [dollarTag?, hnot]
    refine fits_plain_iff.2 ⟨hq, hqq, ?_, ?_, fun _ _ => hquote, ?_⟩
    · simp
    · simp
    · simp [opensPlaceholder, hc]

/-- What is read in front of a placeholder is read there in front of quoted text. -/
theorem Reads.change_quote (hm : IsMarker marker) (h : Reads marker ctx ls w)
    (hw : w.head? = some marker) (hctx : (ctx.behind marker ls).inWord = false)
    (hprev : (ctx.behind marker ls).prev ≠ some marker) (u : List Char) :
    Reads marker ctx ls ('\'' :: u) := by
  refine h.change_last hm hctx ?_
  rintro pre l rfl hfits
  rw [Context.behind_concat] at hctx hprev
  exact hfits.change_quote hm hw hctx hprev u

/-! ## Rendered lexemes -/

/-- All answers are texts between single quotes, with the quotes inside them doubled. -/
def AnswersQuoted (render : String → Option String) : Prop :=
  ∀ name answer, render name = some answer → ∃ s, answer.toList = quotedText '\'' s

/-- The lexemes in the place of a lexeme. -/
def Lexeme.answered (marker : Char) (render : String → Option String) : Lexeme → List Lexeme
  | .placeholder name =>
    match render (String.ofList name) with
    | some answer => lexemes marker answer.toList
    | none => [.placeholder name]
  | l => [l]

section
variable {name : List Char} {answer : String}

theorem rendered_of_none (h : render (String.ofList name) = none) :
    (Lexeme.placeholder name).rendered marker render = marker :: name := by
  rw [Lexeme.rendered, h]
  rfl

theorem answered_of_none (h : render (String.ofList name) = none) :
    (Lexeme.placeholder name).answered marker render = [.placeholder name] := by
  rw [Lexeme.answered, h]

theorem rendered_of_some (h : render (String.ofList name) = some answer) (hs : answer.toList = s) :
    (Lexeme.placeholder name).rendered marker render = s := by
  rw [Lexeme.rendered, h, ← hs]
  rfl

theorem answered_of_some (h : render (String.ofList name) = some answer) (hs : answer.toList = s) :
    (Lexeme.placeholder name).answered marker render = lexemes marker s := by
  rw [Lexeme.answered, h, ← hs]

end

theorem lexemesFrom_rendered (hm : IsLogMarker marker) (hq : AnswersQuoted render)
    (h : Reads marker ctx (pre ++ ls) []) (hoff : SetOff marker ls) :
    lexemesFrom marker ctx (textOf marker pre ++ ls.flatMap (·.rendered marker render)) =
      pre ++ ls.flatMap (·.answered marker render) := by
  induction ls generalizing ctx pre with
  | nil => simpa [lexemesFrom] using lexemesFrom_of_reads h
  | cons l ls ih =>
    have hoff' := List.isChain_cons.1 hoff
    -- what stays joins what has been read before
    have hkeep (hr : l.rendered marker render = l.text marker)
        (ha : l.answered marker render = [l]) :
        lexemesFrom marker ctx (textOf marker pre ++
            (l :: ls).flatMap (·.rendered marker render)) =
          pre ++ (l :: ls).flatMap (·.answered marker render) := by
      have hjoined : lexemesFrom marker ctx
          (textOf marker (pre ++ [l]) ++ ls.flatMap (·.rendered marker render)) =
            pre ++ [l] ++ ls.flatMap (·.answered marker render) :=
        ih (by simpa using h) hoff'.2
      simpa [hr, ha] using hjoined
    cases l with
    | plain c => exact hkeep rfl rfl
    | region kind text => exact hkeep rfl rfl
    | placeholder name =>
      cases hr : render (String.ofList name) with
      | none => exact hkeep (rendered_of_none hr) (answered_of_none hr)
      | some answer =>
        obtain ⟨s, hs⟩ := hq _ _ hr
        obtain ⟨hpre, hhit, hpost⟩ := reads_append.1 h
        obtain ⟨hctx, hprev, -, -, -, -⟩ := (fits_placeholder_iff hm.toIsMarker).1 hhit
        have hcomplete := ((ClosedRegion.literal s).inert hm.toIsMarker hm.ne_dollar).complete
        have hread : Reads marker ctx pre
            (quotedText '\'' s ++ ls.flatMap (·.rendered marker render)) :=
          hpre.change_quote hm.toIsMarker rfl hctx hprev _
        have hstart : Reads marker .start ([] ++ ls) [] :=
          hpost.of_setOff hm fun l hl => hoff'.1 l hl rfl
        rw [List.flatMap_cons, List.flatMap_cons, rendered_of_some hr hs, answered_of_some hr hs,
          lexemesFrom_of_reads hread, lexemesFrom_neutral ⟨hctx, hprev⟩, hcomplete]
        exact congrArg (fun rest => pre ++ (_ ++ rest)) (ih hstart hoff'.2)

/-! ## Placeholders that are found again -/

/-- The placeholders without an answer, where the rendered text has them. -/
def unansweredFrom (marker : Char) (render : String → Option String) (start : Nat) :
    List Lexeme → List Placeholder
  | [] => []
  | l :: rest =>
    let stop := start + byteLength (l.rendered marker render)
    match l with
    | .placeholder name =>
      match render (String.ofList name) with
      | some _ => unansweredFrom marker render stop rest
      | none => ⟨start, stop, String.ofList name⟩ :: unansweredFrom marker render stop rest
    | _ => unansweredFrom marker render stop rest

theorem map_name_unansweredFrom (marker : Char) (render : String → Option String) (start : Nat)
    (ls : List Lexeme) :
    (unansweredFrom marker render start ls).map (·.name) =
      (namesOf ls).filter fun name => (render name).isNone := by
  induction ls generalizing start with
  | nil => rfl
  | cons l ls ih =>
    cases l with
    | plain c => exact ih _
    | region kind text => exact ih _
    | placeholder name =>
      cases hr : render (String.ofList name) <;> simpa [unansweredFrom, namesOf, hr] using ih _

/-- In quoted text no placeholder is found. -/
theorem placeholdersFrom_quotedText (hm : IsLogMarker marker) (start : Nat) (s : List Char) :
    placeholdersFrom marker start (lexemes marker (quotedText '\'' s)) = [] := by
  have hinert := (ClosedRegion.literal s).inert hm.toIsMarker hm.ne_dollar
  have := map_name_placeholdersFrom marker start (lexemes marker (quotedText '\'' s))
  rw [hinert.names] at this
  exact List.map_eq_nil_iff.1 this

theorem placeholdersFrom_answered (hm : IsLogMarker marker) (hq : AnswersQuoted render)
    (start : Nat) (ls : List Lexeme) :
    placeholdersFrom marker start (ls.flatMap (·.answered marker render)) =
      unansweredFrom marker render start ls := by
  induction ls generalizing start with
  | nil => rfl
  | cons l ls ih =>
    cases l with
    | plain c => exact ih _
    | region kind text => exact ih _
    | placeholder name =>
      cases hr : render (String.ofList name) with
      | none =>
        rw [List.flatMap_cons, answered_of_none hr]
        simp only [List.singleton_append, placeholdersFrom, unansweredFrom, hr, ih,
          rendered_of_none hr, Lexeme.text]
      | some answer =>
        obtain ⟨s, hs⟩ := hq _ _ hr
        rw [List.flatMap_cons, answered_of_some hr hs, placeholdersFrom_append,
          placeholdersFrom_quotedText hm, List.nil_append, textOf_lexemes, ← placeholdersFrom_add,
          ih, Nat.add_comm]
        simp only [unansweredFrom, hr, rendered_of_some hr hs]

/-- Where placeholders are set off and answers quoted, the placeholders that are found in the
rendered text are those that have no answer. -/
theorem scan_substitute (hm : IsLogMarker marker) (hq : AnswersQuoted render) {sql : String}
    (hoff : SetOff marker (lexemes marker sql.toList)) :
    scan (substitute sql marker render) marker =
      unansweredFrom marker render 0 (lexemes marker sql.toList) := by
  have hread : Reads marker .start ([] ++ lexemes marker sql.toList) [] :=
    reads_lexemesFrom marker .start sql.toList
  have hlex : lexemes marker ((lexemes marker sql.toList).flatMap (·.rendered marker render)) =
      (lexemes marker sql.toList).flatMap (·.answered marker render) :=
    lexemesFrom_rendered hm hq hread hoff
  rw [scan, substitute, String.toList_ofList, hlex, placeholdersFrom_answered hm hq]

end SqlAccess

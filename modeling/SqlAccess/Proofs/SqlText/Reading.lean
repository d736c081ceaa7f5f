import SqlAccess.Proofs.SqlText.Region
import SqlAccess.Text.Blank

/-!
# Reading lexemes one after another

`Fits` says that a lexeme is read in front of a text, `Reads` that several are, one after another;
a list of lexemes is that of a text exactly if its texts make up the text and it is read
(`lexemesFrom_eq_iff`). How much of the text behind a lexeme decides about it depends on the
lexeme: nothing for a region that is closed (`Fits.region`), the next character for a placeholder
(`fits_placeholder_iff`), and for a plain character that and what a dollar sign could open
(`fits_plain_iff`).
-/

namespace SqlAccess

/-- A character that can mark placeholders: not part of a word, not blank and not a quote. -/
structure IsMarker (marker : Char) : Prop where
  not_word : isWordChar marker = false
  not_blank : Text.isBlank marker = false
  ne_quote : marker ≠ '\''
  ne_double_quote : marker ≠ '"'

/-- The text that lexemes stand for. -/
def textOf (marker : Char) (ls : List Lexeme) : List Char :=
  ls.flatMap (·.text marker)

@[simp] theorem textOf_nil (marker : Char) : textOf marker [] = [] := rfl

@[simp] theorem textOf_cons (marker : Char) (l : Lexeme) (ls : List Lexeme) :
    textOf marker (l :: ls) = l.text marker ++ textOf marker ls := rfl

@[simp] theorem textOf_append (marker : Char) (xs ys : List Lexeme) :
    textOf marker (xs ++ ys) = textOf marker xs ++ textOf marker ys :=
  List.flatMap_append

namespace Context

/-- The context behind several lexemes. -/
def behind (marker : Char) (ctx : Context) (ls : List Lexeme) : Context :=
  ls.foldl (after marker) ctx

@[simp] theorem behind_nil (marker : Char) (ctx : Context) : ctx.behind marker [] = ctx := rfl

@[simp] theorem behind_cons (marker : Char) (ctx : Context) (l : Lexeme) (ls : List Lexeme) :
    ctx.behind marker (l :: ls) = (ctx.after marker l).behind marker ls := rfl

theorem behind_concat (marker : Char) (ctx : Context) (ls : List Lexeme) (l : Lexeme) :
    ctx.behind marker (ls ++ [l]) = (ctx.behind marker ls).after marker l := by
  rw [behind, List.foldl_append]
  rfl

theorem prev_foldl_push (ctx : Context) (s : List Char) (c : Char) :
    ((s ++ [c]).foldl push ctx).prev = some c := by
  simp [List.foldl_append, push]

/-- Behind a placeholder one is in a word. -/
theorem inWord_after_placeholder (marker : Char) (ctx : Context) {name : List Char}
    (hne : name ≠ []) (hw : ∀ c ∈ name, isWordChar c = true) :
    (ctx.after marker (.placeholder name)).inWord = true := by
  have hlast : marker :: name = marker :: name.dropLast ++ [name.getLast hne] := by
    rw [List.cons_append, List.dropLast_concat_getLast hne]
  rw [inWord, after, Lexeme.trace, hlast, prev_foldl_push]
  simpa using hw _ (List.getLast_mem hne)

end Context

/-! ## Reading -/

/-- `l` is read first where its text stands between `ctx` and `u`. -/
def Fits (marker : Char) (ctx : Context) (l : Lexeme) (u : List Char) : Prop :=
  ∃ c t, l.text marker = c :: t ∧ nextLexeme marker ctx c (t ++ u) = (l, u)

/-- `ls` are read one after another where their text stands between `ctx` and `u`. -/
def Reads (marker : Char) : Context → List Lexeme → List Char → Prop
  | _, [], _ => True
  | ctx, l :: ls, u =>
    Fits marker ctx l (textOf marker ls ++ u) ∧ Reads marker (ctx.after marker l) ls u

variable {marker : Char} {ctx : Context} {l : Lexeme} {ls : List Lexeme} {u w : List Char}

theorem Fits.text_ne_nil (h : Fits marker ctx l u) : l.text marker ≠ [] := by
  obtain ⟨c, t, ht, -⟩ := h
  rw [ht]
  exact List.cons_ne_nil c t

theorem reads_append {xs ys : List Lexeme} :
    Reads marker ctx (xs ++ ys) u ↔
      Reads marker ctx xs (textOf marker ys ++ u) ∧ Reads marker (ctx.behind marker xs) ys u := by
  induction xs generalizing ctx with
  | nil => simp [Reads]
  | cons l xs ih =>
    simp only [List.cons_append, Reads, ih, textOf_append, List.append_assoc,
      Context.behind_cons, and_assoc]

theorem lexemesFrom_of_reads (h : Reads marker ctx ls u) :
    lexemesFrom marker ctx (textOf marker ls ++ u) =
      ls ++ lexemesFrom marker (ctx.behind marker ls) u := by
  induction ls generalizing ctx with
  | nil => rfl
  | cons l ls ih =>
    obtain ⟨⟨c, t, ht, hn⟩, hrest⟩ := h
    have hs : textOf marker (l :: ls) ++ u = c :: (t ++ (textOf marker ls ++ u)) := by
      rw [textOf_cons, ht, List.append_assoc, List.cons_append]
    rw [hs, lexemesFrom, hn, ih hrest]
    rfl

theorem fits_nextLexeme (marker : Char) (ctx : Context) (c : Char) (rest : List Char) :
    Fits marker ctx (nextLexeme marker ctx c rest).1 (nextLexeme marker ctx c rest).2 := by
  have happ := nextLexeme_append marker ctx c rest
  obtain ⟨d, t, ht⟩ := List.exists_cons_of_ne_nil (nextLexeme_text_ne_nil marker ctx c rest)
  rw [ht, List.cons_append] at happ
  obtain ⟨rfl, hrest⟩ := List.cons.inj happ
  refine ⟨d, t, ht, ?_⟩
  rw [hrest]

theorem reads_lexemesFrom (marker : Char) (ctx : Context) (s : List Char) :
    Reads marker ctx (lexemesFrom marker ctx s) [] := by
  fun_induction lexemesFrom marker ctx s with
  | case1 => trivial
  | case2 ctx c rest ih =>
    refine ⟨?_, ih⟩
    rw [List.append_nil, textOf, lexemesFrom_text]
    exact fits_nextLexeme marker ctx c rest

theorem lexemesFrom_eq_iff {s : List Char} :
    lexemesFrom marker ctx s = ls ↔ s = textOf marker ls ∧ Reads marker ctx ls [] := by
  constructor
  · rintro rfl
    exact ⟨(lexemesFrom_text marker ctx s).symm, reads_lexemesFrom marker ctx s⟩
  · rintro ⟨rfl, h⟩
    simpa [lexemesFrom] using lexemesFrom_of_reads h

/-! ## What decides about a lexeme -/

theorem fits_plain_iff {c : Char} :
    Fits marker ctx (.plain c) u ↔
      c ≠ '\'' ∧ c ≠ '"' ∧ (c = '-' → u.head? ≠ some '-') ∧ (c = '/' → u.head? ≠ some '*') ∧
        (c = '$' → ctx.inWord = false → dollarTag? u = none) ∧
        opensPlaceholder marker ctx c u = false := by
  have hfits : Fits marker ctx (.plain c) u ↔ nextLexeme marker ctx c u = (.plain c, u) := by
    constructor
    · rintro ⟨d, t, ht, hn⟩
      obtain ⟨rfl, rfl⟩ := List.cons.inj ht
      exact hn
    · intro hn
      exact ⟨c, [], rfl, hn⟩
  rw [hfits]
  constructor
  · intro h
    unfold nextLexeme at h
    split at h
    · cases h
    next hq =>
    split at h
    · cases h
    next hqq =>
    split at h
    · cases h
    next hdash =>
    split at h
    · cases h
    next hslash =>
    split at h
    · cases h
    next hdollar =>
    split at h
    · cases h
    next hopen =>
    refine ⟨hq, hqq, fun hc hh => hdash ⟨hc, hh⟩, fun hc hh => hslash ⟨hc, hh⟩, ?_, ?_⟩
    · intro hc hctx
      rwa [if_pos ⟨hc, hctx⟩] at hdollar
    · simpa using hopen
  · rintro ⟨hq, hqq, hdash, hslash, hdollar, hopen⟩
    have hnone : (if c = '$' ∧ ctx.inWord = false then dollarTag? u else none) = none := by
      split
      · next hc => exact hdollar hc.1 hc.2
      · rfl
    simp only [nextLexeme, if_neg hq, if_neg hqq, if_neg fun h : _ ∧ _ => hdash h.1 h.2,
      if_neg fun h : _ ∧ _ => hslash h.1 h.2, hnone, hopen, Bool.false_eq_true, if_false]

/-- Most characters are plain whatever comes behind them. -/
theorem fits_plain_of_ne {c : Char}
    (hc : c ≠ '\'' ∧ c ≠ '"' ∧ c ≠ '-' ∧ c ≠ '/' ∧ c ≠ '$')
    (ho : opensPlaceholder marker ctx c u = false) : Fits marker ctx (.plain c) u := by
  obtain ⟨hq, hqq, hdash, hslash, hdollar⟩ := hc
  exact fits_plain_iff.2 ⟨hq, hqq, fun h => absurd h hdash, fun h => absurd h hslash,
    fun h => absurd h hdollar, ho⟩

/-- Whatever its marker is, a placeholder starts neither in a word nor behind a marker that is
remembered, and its name is a word that does not go on. -/
theorem Fits.placeholder {name : List Char} (h : Fits marker ctx (.placeholder name) u) :
    ctx.inWord = false ∧ ctx.prev ≠ some marker ∧ name ≠ [] ∧
      (∀ c ∈ name, isWordChar c = true) ∧ ∀ c, u.head? = some c → isWordChar c = false := by
  obtain ⟨d, t, ht, h⟩ := h
  obtain ⟨rfl, rfl⟩ := List.cons.inj ht
  unfold nextLexeme at h
  split at h
  · cases h
  split at h
  · cases h
  split at h
  · cases h
  split at h
  · cases h
  split at h
  · cases h
  split at h
  · next hopen =>
    obtain ⟨htake, hdrop⟩ := Prod.mk.inj h
    have htake := Lexeme.placeholder.inj htake
    simp only [opensPlaceholder, Bool.and_eq_true, Bool.not_eq_true', bne_iff_ne] at hopen
    obtain ⟨⟨⟨-, hctx⟩, hprev⟩, hhead⟩ := hopen
    refine ⟨hctx, by simpa using hprev, ?_, ?_, ?_⟩
    · intro hnil
      rw [hnil, List.nil_append] at htake hhead
      cases u with
      | nil => simp at hhead
      | cons d u =>
        rw [List.takeWhile_cons_of_pos (by simpa using hhead)] at htake
        cases htake
    · intro c hc
      rw [← htake] at hc
      exact List.mem_takeWhile_imp hc
    · intro c hc
      rw [← hdrop] at hc
      have := List.head?_dropWhile_not isWordChar (name ++ u)
      rw [hc] at this
      exact this
  · cases h

theorem fits_placeholder_iff (hm : IsMarker marker) {name : List Char} :
    Fits marker ctx (.placeholder name) u ↔
      ctx.inWord = false ∧ ctx.prev ≠ some marker ∧ name ≠ [] ∧
        (∀ c ∈ name, isWordChar c = true) ∧ (∀ c, u.head? = some c → isWordChar c = false) ∧
        (marker = '$' → dollarTag? (name ++ u) = none) := by
  constructor
  · intro h
    obtain ⟨hctx, hprev, hne, hw, hu⟩ := h.placeholder
    refine ⟨hctx, hprev, hne, hw, hu, fun hd => ?_⟩
    obtain ⟨d, t, ht, h⟩ := h
    obtain ⟨rfl, rfl⟩ := List.cons.inj ht
    unfold nextLexeme at h
    rw [if_neg hm.ne_quote, if_neg hm.ne_double_quote] at h
    split at h
    · cases h
    split at h
    · cases h
    split at h
    · cases h
    next hdollar => rwa [if_pos ⟨hd, hctx⟩] at hdollar
  · rintro ⟨hctx, hprev, hne, hw, hu, hdollar⟩
    obtain ⟨c, name, rfl⟩ := List.exists_cons_of_ne_nil hne
    refine ⟨marker, c :: name, rfl, ?_⟩
    have hc := hw c List.mem_cons_self
    have hstar : c ≠ '-' ∧ c ≠ '*' := by
      constructor <;> rintro rfl <;> revert hc <;> decide
    have hnone : (if marker = '$' ∧ ctx.inWord = false then dollarTag? (c :: name ++ u) else none) =
        none := by
      split
      · next hd => exact hdollar hd.1
      · rfl
    have hopen : opensPlaceholder marker ctx marker (c :: name ++ u) = true := by
      simp [opensPlaceholder, hctx, hprev, hc]
    unfold nextLexeme
    rw [if_neg hm.ne_quote, if_neg hm.ne_double_quote, if_neg (by simp [hstar.1]),
      if_neg (by simp [hstar.2]), hnone, takeWhile_word hw hu, dropWhile_word hw hu]
    simp only [hopen, if_true]

/-- Nothing behind a closed region decides about it. -/
theorem Fits.region {kind : Region} {text : List Char}
    (h : Fits marker ctx (.region kind text) w) (hw : w ≠ []) (u : List Char) :
    Fits marker ctx (.region kind text) u := by
  obtain ⟨c, t, rfl : text = c :: t, h⟩ := h
  refine ⟨c, t, rfl, ?_⟩
  have htw : t ++ w ≠ [] := List.append_ne_nil_of_right_ne_nil t hw
  unfold nextLexeme at h ⊢
  split at h
  · next hq =>
    obtain ⟨hl, hrest⟩ := Prod.mk.inj h
    obtain ⟨rfl, hs⟩ := Lexeme.region.inj hl
    rw [if_pos hq, (splitLiteral_locally _).eq (Prod.ext (List.cons.inj hs).2 hrest) hw]
  next hq =>
  rw [if_neg hq]
  split at h
  · next hqq =>
    obtain ⟨hl, hrest⟩ := Prod.mk.inj h
    obtain ⟨rfl, hs⟩ := Lexeme.region.inj hl
    rw [if_pos hqq, (splitThrough_locally _).eq (Prod.ext (List.cons.inj hs).2 hrest) hw]
  next hqq =>
  rw [if_neg hqq]
  split at h
  · next hdash =>
    obtain ⟨hl, hrest⟩ := Prod.mk.inj h
    obtain ⟨rfl, hs⟩ := Lexeme.region.inj hl
    have ht : t ≠ [] := (List.cons.inj hs).2 ▸ splitThrough_ne_nil htw
    have hhead : (t ++ u).head? = some '-' := by
      rw [head?_of_append rfl (fun _ => ht) u htw, hdash.2]
    rw [if_pos ⟨hdash.1, hhead⟩,
      (splitThrough_locally _).eq (Prod.ext (List.cons.inj hs).2 hrest) hw]
  next hdash =>
  split at h
  · next hslash =>
    obtain ⟨hl, hrest⟩ := Prod.mk.inj h
    obtain ⟨rfl, hs⟩ := Lexeme.region.inj hl
    obtain ⟨t, rfl⟩ : ∃ t', t = '*' :: t' := ⟨_, (List.cons.inj hs).2.symm⟩
    have hs := (List.cons.inj (List.cons.inj hs).2).2
    rw [if_neg (by simp [hslash.1]), if_pos ⟨hslash.1, rfl⟩]
    have := (splitComment_locally _).eq (Prod.ext hs hrest) hw u
    rw [List.cons_append, List.tail_cons, this]
  next hslash =>
  split at h
  · next name body htag =>
    split at htag
    · next hc =>
      obtain ⟨hl, hrest⟩ := Prod.mk.inj h
      obtain ⟨rfl, hs⟩ := Lexeme.region.inj hl
      obtain ⟨-, hname⟩ := dollarTag?_eq_some_iff.1 htag
      have ht : t = name ++ '$' :: (splitBehind ('$' :: name ++ ['$']) body).1 := by
        have := (List.cons.inj hs).2.symm
        simpa using this
      have htagne : '$' :: name ++ ['$'] ≠ [] := by simp
      have hsplit := (splitBehind_locally htagne).eq (s := body) (w := w) (Prod.ext rfl hrest) hw u
      have hopen : dollarTag? (t ++ u) =
          some (name, (splitBehind ('$' :: name ++ ['$']) body).1 ++ u) := by
        rw [dollarTag?_eq_some_iff]
        exact ⟨by rw [ht]; simp, hname⟩
      rw [if_neg (by simp [hc.1]), if_neg (by simp [hc.1]), if_pos hc, hopen]
      simp only [hsplit, ht, hc.1]
      simp
    · cases htag
  · split at h <;> cases h

end SqlAccess

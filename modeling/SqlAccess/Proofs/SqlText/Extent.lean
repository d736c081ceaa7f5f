import SqlAccess.Proofs.SqlText.Settled

/-!
# Where placeholders extend

A context remembers of the text in front of it its last character, unless that is the slash behind a
block comment (`Context.Sees`), however the text has been read (`Context.Sees.behind`). So a
placeholder that is found is delimited by what really stands on both sides of it, whatever its
marker is (`extent_of_mem_scan`). No two of them overlap (`pairwise_placeholdersFrom`).
-/

namespace SqlAccess

variable {marker : Char} {ctx : Context} {l : Lexeme} {ls : List Lexeme}
  {front u : List Char}

/-! ## What a context remembers -/

/-- Of the text in front, a context remembers the last character, or a blank in place of a slash,
and behind a character of a word whether that one stands behind another. -/
structure Context.Sees (front : List Char) (ctx : Context) : Prop where
  prev : ctx.prev = front.getLast? ∨ front.getLast? = some '/' ∧ ctx.prev = some ' '
  before : ctx.inWord = true →
    ctx.before.any isWordChar = front.dropLast.getLast?.any isWordChar

namespace Context

theorem sees_start : start.Sees [] :=
  ⟨.inl rfl, nofun⟩

namespace Sees

theorem inWord_eq (h : ctx.Sees front) : ctx.inWord = front.getLast?.any isWordChar := by
  rcases h.prev with hp | ⟨hslash, hp⟩
  · rw [inWord, hp]
  · rw [inWord, hp, hslash]
    decide

theorem push (h : ctx.Sees front) (c : Char) : (ctx.push c).Sees (front ++ [c]) where
  prev := .inl (by rw [List.getLast?_concat]; rfl)
  before _ := by
    rw [List.dropLast_concat]
    exact h.inWord_eq

theorem foldl_push (h : ctx.Sees front) (s : List Char) :
    (s.foldl Context.push ctx).Sees (front ++ s) := by
  induction s generalizing ctx front with
  | nil => rwa [List.append_nil]
  | cons c s ih =>
    rw [← List.singleton_append, ← List.append_assoc]
    exact ih (h.push c)

/-- Behind a region that is closed, its last character is remembered, or a blank in place of it. -/
theorem after_region {kind : Region} {text : List Char} (hstop : [kind.stop] <:+ text) :
    (ctx.after marker (.region kind text)).Sees (front ++ text) := by
  obtain ⟨inside, rfl⟩ := hstop
  have hlast : (front ++ (inside ++ [kind.stop])).getLast? = some kind.stop := by
    rw [← List.append_assoc, List.getLast?_concat]
  refine ⟨?_, ?_⟩
  · rw [hlast]
    cases kind with
    | blockComment => exact .inr ⟨rfl, rfl⟩
    | _ => exact .inl rfl
  · intro hword
    have hnot : isWordChar kind.trace = false := by cases kind <;> decide
    exact absurd hword (by simp [after, Lexeme.trace, Context.push, inWord, hnot])

/-- Where more text comes, the context behind a lexeme sees it. -/
theorem after (h : ctx.Sees front) (hl : Fits marker ctx l u) (hu : u ≠ []) :
    (ctx.after marker l).Sees (front ++ l.text marker) := by
  cases l with
  | plain c => exact h.push c
  | placeholder name => exact h.foldl_push (marker :: name)
  | region kind text => exact after_region (hl.suffix_region hu)

theorem behind (h : ctx.Sees front) (hls : Reads marker ctx ls u) (hu : u ≠ []) :
    (ctx.behind marker ls).Sees (front ++ textOf marker ls) := by
  induction ls generalizing ctx front with
  | nil => rwa [textOf_nil, List.append_nil]
  | cons l ls ih =>
    rw [textOf_cons, ← List.append_assoc]
    exact ih (h.after hls.1 (List.append_ne_nil_of_right_ne_nil _ hu)) hls.2

end Sees

end Context

/-! ## Where a placeholder starts and stops -/

/-- How a text is read around a placeholder that is found in it, between those in front and those
behind: it is the lexeme between `pre` and `post`. -/
structure FoundBetween (marker : Char) (sql : String) (before : List Placeholder)
    (hit : Placeholder) (after : List Placeholder) (pre post : List Lexeme) : Prop where
  lexemes_eq : lexemes marker sql.toList = pre ++ .placeholder hit.name.toList :: post
  before_eq : before = placeholdersFrom marker 0 pre
  after_eq : after = placeholdersFrom marker hit.stop post
  start_eq : hit.start = byteLength (textOf marker pre)
  stop_eq : hit.stop = byteLength (textOf marker pre ++ marker :: hit.name.toList)

theorem exists_foundBetween {sql : String} {before after : List Placeholder} {hit : Placeholder}
    (h : scan sql marker = before ++ hit :: after) :
    ∃ pre post, FoundBetween marker sql before hit after pre post := by
  obtain ⟨pre, post, hls, hbefore, hstart, hstop, hafter⟩ := exists_of_placeholdersFrom_eq h
  rw [Nat.zero_add] at hstart
  refine ⟨pre, post, hls, hbefore, hafter, hstart, ?_⟩
  rw [hstop, hstart, byteLength_append]

namespace FoundBetween

variable {sql : String} {before after : List Placeholder} {hit : Placeholder}
  {pre post : List Lexeme} (h : FoundBetween marker sql before hit after pre post)
include h

/-- The text at the placeholder's first byte. -/
theorem text_eq :
    sql.toList = textOf marker pre ++ (marker :: hit.name.toList ++ textOf marker post) := by
  rw [← textOf_lexemes marker sql.toList, h.lexemes_eq, textOf_append, textOf_cons]
  rfl

/-- The text at the byte behind the placeholder. -/
theorem text_eq_behind :
    sql.toList = (textOf marker pre ++ marker :: hit.name.toList) ++ textOf marker post :=
  h.text_eq.trans (List.append_assoc _ _ _).symm

theorem reads : Reads marker .start (pre ++ .placeholder hit.name.toList :: post) [] := by
  rw [← h.lexemes_eq]
  exact reads_lexemesFrom marker .start sql.toList

theorem fits : Fits marker (Context.start.behind marker pre) (.placeholder hit.name.toList)
    (textOf marker post) := by
  have hfits := (reads_append.1 h.reads).2.1
  rwa [List.append_nil] at hfits

theorem charBefore?_start : Text.charBefore? sql hit.start = (textOf marker pre).getLast? := by
  rw [h.start_eq, Text.charBefore?_of_append h.text_eq]

theorem charAt?_stop : Text.charAt? sql hit.stop = (textOf marker post).head? := by
  rw [h.stop_eq, Text.charAt?_of_append h.text_eq_behind]

theorem sees : (Context.start.behind marker pre).Sees (textOf marker pre) :=
  Context.sees_start.behind (reads_append.1 h.reads).1 (by simp [Lexeme.text])

end FoundBetween

/-- The bytes of a placeholder in a text: they start and stop between characters, they spell the
marker and the name, and neither the name nor what it stands behind goes on as a word. -/
structure Placeholder.Extent (sql : String) (marker : Char) (p : Placeholder) : Prop where
  start_lt_stop : p.start < p.stop
  stop_le : p.stop ≤ sql.utf8ByteSize
  start_isValid : (String.Pos.Raw.mk p.start).IsValid sql
  stop_isValid : (String.Pos.Raw.mk p.stop).IsValid sql
  text : Text.between? sql p.start p.stop = some (fullName marker p.name)
  name_ne_empty : p.name ≠ ""
  name_word : ∀ c ∈ p.name.toList, isWordChar c = true
  behind : ∀ c, Text.charAt? sql p.stop = some c → isWordChar c = false
  front : ∀ c, Text.charBefore? sql p.start = some c →
    isWordChar c = false ∧ (marker ≠ '/' → c ≠ marker)

/-- Each placeholder that is found extends over its marker and its name, no further and no less. -/
theorem extent_of_mem_scan {sql : String} {p : Placeholder} (hp : p ∈ scan sql marker) :
    p.Extent sql marker := by
  obtain ⟨before, after, hscan⟩ := List.append_of_mem hp
  obtain ⟨pre, post, h⟩ := exists_foundBetween hscan
  obtain ⟨hctx, hprev, hne, hw, hbehind⟩ := h.fits.placeholder
  refine ⟨?_, ?_, ?_, ?_, ?_, ?_, hw, ?_, ?_⟩
  · have := marker.utf8Size_pos
    rw [h.stop_eq, byteLength_append, ← h.start_eq, byteLength]
    omega
  · rw [h.stop_eq]
    exact byteLength_le h.text_eq_behind
  · rw [h.start_eq]
    exact isValid_byteLength h.text_eq
  · rw [h.stop_eq]
    exact isValid_byteLength h.text_eq_behind
  · rw [h.start_eq, h.stop_eq, Text.between?_of_append h.text_eq]
    rfl
  · intro hempty
    exact hne (by rw [hempty]; rfl)
  · intro c hc
    rw [h.charAt?_stop] at hc
    exact hbehind c hc
  · intro c hc
    rw [h.charBefore?_start] at hc
    have hword : isWordChar c = false := by
      rw [h.sees.inWord_eq, hc] at hctx
      exact hctx
    refine ⟨hword, fun hslash => ?_⟩
    rintro rfl
    rcases h.sees.prev with hp | ⟨hp, -⟩
    · exact hprev (hp.trans hc)
    · exact hslash (Option.some.inj (hc.symm.trans hp))

/-! ## Ranges in order -/

theorem start_le_of_mem_placeholdersFrom {start : Nat} {p : Placeholder}
    (h : p ∈ placeholdersFrom marker start ls) : start ≤ p.start := by
  obtain ⟨pre, post, -, hstart⟩ := exists_of_mem_placeholdersFrom h
  omega

/-- Each placeholder starts no sooner than where those in front of it stop. -/
theorem pairwise_placeholdersFrom (marker : Char) (start : Nat) (ls : List Lexeme) :
    (placeholdersFrom marker start ls).Pairwise fun p q => p.start < q.start ∧ p.stop ≤ q.start := by
  induction ls generalizing start with
  | nil => exact .nil
  | cons l ls ih =>
    cases l with
    | plain c => exact ih _
    | region kind text => exact ih _
    | placeholder name =>
      refine .cons (fun q hq => ?_) (ih _)
      have hle := start_le_of_mem_placeholdersFrom hq
      have hmarker := marker.utf8Size_pos
      refine ⟨?_, hle⟩
      simp only [Lexeme.text, byteLength] at hle
      change start < q.start
      omega

end SqlAccess

import Mathlib.Data.List.Basic
import SqlAccess.Proofs.SqlText.Inert

/-!
# Escape strings

An escape string without a doubled quote is inert. A doubled quote ends it: what comes behind the
first of the two quotes is read as a plain literal, in which a backslash escapes nothing. So an
escape string is skipped exactly if the rest from its first doubled quote on is skipped as a text of
its own (`skipped_escapeString_iff`), which is the case if no escaped quote comes behind a doubled
one.
-/

namespace SqlAccess

/-- What an escape string consists of. -/
inductive EscapeItem
  | char (c : Char) (h : c ≠ '\'' ∧ c ≠ '\\')
  | doubledQuote
  | escaped (c : Char)
  deriving DecidableEq

def EscapeItem.text : EscapeItem → List Char
  | char c _ => [c]
  | doubledQuote => ['\'', '\'']
  | escaped c => ['\\', c]

/-- The items one after another, between quotes. -/
def betweenQuotes (items : List EscapeItem) : List Char :=
  '\'' :: items.flatMap (·.text) ++ ['\'']

/-- The escape string of the items, where `e` is its first letter. -/
def escapeString (e : Char) (items : List EscapeItem) : List Char :=
  e :: betweenQuotes items

variable {marker e : Char} {items : List EscapeItem} {a : String}

/-! ## Up to the first doubled quote -/

theorem splitLiteral_items (h : .doubledQuote ∉ items) (u : List Char) :
    splitLiteral true (items.flatMap (·.text) ++ '\'' :: u) =
      (items.flatMap (·.text) ++ ['\''], u) := by
  induction items with
  | nil => exact splitLiteral_quote true u
  | cons item items ih =>
    obtain ⟨hitem, hitems⟩ := not_or.1 (mt List.mem_cons.2 h)
    rw [List.flatMap_cons, List.append_assoc]
    cases item with
    | char c hc =>
      show splitLiteral true (c :: (items.flatMap (·.text) ++ '\'' :: u)) = _
      rw [splitLiteral_other hc.1 (by simpa using hc.2), ih hitems]
      rfl
    | doubledQuote => exact absurd rfl hitem
    | escaped c =>
      show splitLiteral true ('\\' :: c :: (items.flatMap (·.text) ++ '\'' :: u)) = _
      rw [splitLiteral_escape, ih hitems]
      rfl

/-- An escape string without a doubled quote is inert. -/
theorem inert_escapeString (hm : IsMarker marker) (hd : marker ≠ '$') (he : e = 'E' ∨ e = 'e')
    (h : .doubledQuote ∉ items) : Inert marker (escapeString e items) := by
  have hw : isWordChar e = true := by
    rcases he with rfl | rfl <;> decide
  have hescapes : (Context.start.after marker (.plain e)).opensEscapes = true := by
    rcases he with rfl | rfl <;> rfl
  have htext : textOf marker [.plain e, .region .literal (betweenQuotes items)] =
      escapeString e items := by
    simp [Lexeme.text, escapeString]
  have hread (u : List Char) :
      Reads marker .start [.plain e, .region .literal (betweenQuotes items)] u := by
    refine ⟨⟨e, [], rfl, nextLexeme_of_word hm hw _⟩,
      ⟨'\'', items.flatMap (·.text) ++ ['\''], rfl, ?_⟩, trivial⟩
    simp [nextLexeme, hescapes, splitLiteral_items h u, betweenQuotes]
  have hneutral := Context.neutral_after_region hm hd (Context.start.after marker (.plain e))
    .literal (betweenQuotes items)
  obtain ⟨hs, hl⟩ := complete_of_reads hread hneutral
  rw [htext] at hs hl
  exact ⟨hs, by rw [hl]; rfl⟩

/-! ## Behind a doubled quote -/

/-- A doubled quote ends an escape string, and its second half opens a plain literal. -/
theorem escapeString_append (e : Char) (before behind : List EscapeItem) :
    escapeString e (before ++ .doubledQuote :: behind) =
      escapeString e before ++ betweenQuotes behind := by
  simp [escapeString, betweenQuotes, EscapeItem.text]

/-- Items without an escaped quote make up a plain literal. -/
theorem exists_betweenQuotes_eq (h : .escaped '\'' ∉ items) :
    ∃ s, betweenQuotes items = quotedText '\'' s := by
  suffices hitems : ∃ s, items.flatMap (·.text) = doubled '\'' s by
    obtain ⟨s, hs⟩ := hitems
    exact ⟨s, by rw [betweenQuotes, hs, quotedText]⟩
  induction items with
  | nil => exact ⟨[], rfl⟩
  | cons item items ih =>
    obtain ⟨hitem, hitems⟩ := not_or.1 (mt List.mem_cons.2 h)
    obtain ⟨s, hs⟩ := ih hitems
    rw [List.flatMap_cons, hs]
    cases item with
    | char c hc => exact ⟨c :: s, by simp [EscapeItem.text, doubled, hc.1]⟩
    | doubledQuote => exact ⟨'\'' :: s, by simp [EscapeItem.text, doubled]⟩
    | escaped c =>
      have hc : c ≠ '\'' := by
        rintro rfl
        exact hitem rfl
      exact ⟨'\\' :: c :: s, by simp [EscapeItem.text, doubled, hc]⟩

theorem Placeholder.shift_injective (offset : Nat) :
    Function.Injective (Placeholder.shift offset) := by
  rintro ⟨p, q, m⟩ ⟨p', q', m'⟩ h
  simpa [Placeholder.shift] using h

section
variable (hm : IsMarker marker) (hd : marker ≠ '$') (ha : Finished marker a)
  (he : e = 'E' ∨ e = 'e')
include hm hd ha he

/-- An escape string is read as two texts, the second from its first doubled quote on. -/
theorem skipped_escapeString_append {before : List EscapeItem} (hb : .doubledQuote ∉ before)
    (behind : List EscapeItem) (b : String) :
    Skipped marker a (String.ofList (escapeString e (before ++ .doubledQuote :: behind))) b ↔
      Skipped marker "" (String.ofList (betweenQuotes behind)) b := by
  let r := String.ofList (escapeString e before)
  let rest := String.ofList (betweenQuotes behind)
  have hr : String.ofList (escapeString e (before ++ .doubledQuote :: behind)) = r ++ rest := by
    rw [← String.ofList_append, ← escapeString_append]
  have hinert : Inert marker r.toList := by
    rw [String.toList_ofList]
    exact inert_escapeString hm hd he hb
  have hscan : scan (a ++ (r ++ rest) ++ b) marker = scan a marker ++
      (scan (rest ++ b) marker).map (·.shift (a ++ r).utf8ByteSize) := by
    rw [← hinert.skipped (ha.complete hm hd) (rest ++ b)]
    simp only [String.append_assoc]
  have hmap : (scan b marker).map (·.shift (a ++ (r ++ rest)).utf8ByteSize) =
      ((scan b marker).map (·.shift rest.utf8ByteSize)).map (·.shift (a ++ r).utf8ByteSize) := by
    rw [List.map_map, ← String.append_assoc, String.utf8ByteSize_append]
    refine List.map_congr_left fun p _ => ?_
    rw [Function.comp_apply, Placeholder.shift_shift]
  rw [hr, Skipped, hscan, hmap, List.append_cancel_left_eq, skipped_iff_of_empty]
  exact (List.map_injective_iff.2 (Placeholder.shift_injective _)).eq_iff

/-- An escape string is skipped exactly if its rest from the second half of the first doubled quote
on is skipped as a text of its own, as it is if no escaped quote comes behind a doubled one. -/
theorem skipped_escapeString_iff (items : List EscapeItem) (b : String) :
    (Skipped marker a (String.ofList (escapeString e items)) b ↔
      ∀ before behind, items = before ++ .doubledQuote :: behind → .doubledQuote ∉ before →
        Skipped marker "" (String.ofList (betweenQuotes behind)) b) ∧
    ((∀ before behind, items = before ++ .doubledQuote :: behind → .escaped '\'' ∉ behind) →
      Skipped marker a (String.ofList (escapeString e items)) b) := by
  have hiff : Skipped marker a (String.ofList (escapeString e items)) b ↔
      ∀ before behind, items = before ++ .doubledQuote :: behind → .doubledQuote ∉ before →
        Skipped marker "" (String.ofList (betweenQuotes behind)) b := by
    constructor
    · rintro h before behind rfl hb
      exact (skipped_escapeString_append hm hd ha he hb behind b).1 h
    · intro h
      by_cases hq : .doubledQuote ∈ items
      · obtain ⟨before, behind, rfl, hb⟩ := List.eq_append_cons_of_mem hq
        exact (skipped_escapeString_append hm hd ha he hb behind b).2 (h before behind rfl hb)
      · have hinert : Inert marker (String.ofList (escapeString e items)).toList := by
          rw [String.toList_ofList]
          exact inert_escapeString hm hd he hq
        exact hinert.skipped (ha.complete hm hd) b
  refine ⟨hiff, fun h => hiff.2 ?_⟩
  intro before behind hitems _
  obtain ⟨s, hs⟩ := exists_betweenQuotes_eq (h before behind hitems)
  have hinert : Inert marker (String.ofList (betweenQuotes behind)).toList := by
    rw [String.toList_ofList, hs]
    exact (ClosedRegion.literal s).inert hm hd
  have hempty : Complete marker "".toList := complete_nil marker
  exact hinert.skipped hempty b

end

theorem skipped_escapeString_iff_escaped_before_doubled :
    let items := [.escaped '\'', .char '@' (by decide), .char 'q' (by decide), .doubledQuote,
      .escaped '\\', .char '@' (by decide), .char 'r' (by decide)]
    let r := String.ofList (escapeString 'E' items)
    IsMarker '@' ∧ Finished '@' "x = @p " ∧ r = "E'\\'@q''\\\\@r'" ∧
      (∀ before behind, items = before ++ .doubledQuote :: behind → .escaped '\'' ∉ behind) ∧
      scan ("x = @p " ++ r ++ " @s") '@' = [⟨4, 6, "p"⟩, ⟨21, 23, "s"⟩] := by
  intro items r
  have hm : IsMarker '@' := ⟨by decide, by decide, by decide, by decide⟩
  have ha : Finished '@' "x = @p " := .inr ⟨by decide +kernel, by decide⟩
  have hi : ∀ before behind, items = before ++ .doubledQuote :: behind →
      .escaped '\'' ∉ behind := by
    intro before behind h hmem
    -- an escaped quote behind a doubled one would not be the first item
    have hlater : .escaped '\'' ∈ items.tail := by
      rw [h]
      cases before <;> simp [hmem]
    exact absurd hlater (by decide)
  exact ⟨hm, ha, by decide, hi,
    ((skipped_escapeString_iff hm (by decide) ha (.inl rfl) items " @s").2 hi).trans
      (by decide +kernel)⟩

/-- Behind a doubled quote an escaped one ends the string, and the quote at the end opens a literal
that takes in what comes behind. -/
theorem not_skipped_escaped_behind_doubled :
    let r := String.ofList (escapeString 'E' [.doubledQuote, .escaped '\''])
    Finished '@' "" ∧ scan " @x" '@' = [⟨1, 3, "x"⟩] ∧ scan ("" ++ r ++ " @x") '@' = [] ∧
      ¬ Skipped '@' "" r " @x" := by
  intro r
  exact ⟨.inl rfl, by decide +kernel, by decide +kernel, by decide +kernel⟩

end SqlAccess

import SqlAccess.Proofs.SqlText.Complete

/-!
# Regions without effect

`ClosedRegion` says by grammar which texts are literals, quoted names, comments and dollar-quoted
bodies, without reading them. Each of them is inert: it is complete and no placeholder is found in
it (`ClosedRegion.inert`). So behind a finished text and in front of any other a closed region only
moves the placeholders behind it (`skipped_closedRegion`).
-/

namespace SqlAccess

variable {marker : Char} {ctx : Context} {s t u : List Char}

/-! ## Regions by grammar -/

/-- `s` with every quote `q` written twice. -/
def doubled (q : Char) (s : List Char) : List Char :=
  s.flatMap fun c => if c = q then [q, q] else [c]

/-- `s` between quotes `q`, with those inside it written twice. -/
def quotedText (q : Char) (s : List Char) : List Char :=
  q :: doubled q s ++ [q]

/-- What a comment consists of. -/
inductive CommentPart
  | opening
  | closing
  | other (c : Char)

/-- The parts of a comment, from left to right. -/
def commentParts : List Char → List CommentPart
  | '/' :: '*' :: rest => .opening :: commentParts rest
  | '*' :: '/' :: rest => .closing :: commentParts rest
  | c :: rest => .other c :: commentParts rest
  | [] => []

/-- What a part adds to the nesting depth. -/
def CommentPart.weight : CommentPart → Int
  | opening => 1
  | closing => -1
  | other _ => 0

/-- The nesting depth behind the parts. -/
def nesting : List CommentPart → Int
  | [] => 0
  | p :: parts => p.weight + nesting parts

/-- A comment that opens at once and whose depth first returns to zero at its end. -/
structure IsBlockComment (r : List Char) : Prop where
  opens : ['/', '*'] <+: r
  closes : nesting (commentParts r) = 0
  first : ∀ n < (commentParts r).length, 0 < n → nesting ((commentParts r).take n) ≠ 0

/-- A dollar quote's tag. -/
def dollarTag (name : List Char) : List Char :=
  '$' :: name ++ ['$']

/-- A body behind which the tag comes for the first time. -/
def EndsAtTag (tag body : List Char) : Prop :=
  ∀ x y, body ++ tag = x ++ tag ++ y → y = []

/-- The regions that are closed at their end, and not before. -/
inductive ClosedRegion : List Char → Prop
  | literal (s : List Char) : ClosedRegion (quotedText '\'' s)
  | quotedName (s : List Char) : ClosedRegion (quotedText '"' s)
  | lineComment (s : List Char) (h : '\n' ∉ s) : ClosedRegion ('-' :: '-' :: s ++ ['\n'])
  | blockComment (r : List Char) (h : IsBlockComment r) : ClosedRegion r
  | dollarBody (name body : List Char) (hname : IsTagName name)
      (h : EndsAtTag (dollarTag name) body) :
      ClosedRegion (dollarTag name ++ body ++ dollarTag name)

/-! ## Ends of regions -/

theorem splitLiteral_of_notMem (h : '\'' ∉ s) (u : List Char) :
    splitLiteral false (s ++ '\'' :: u) = (s ++ ['\''], u) := by
  induction s with
  | nil => exact splitLiteral_quote false u
  | cons c s ih =>
    obtain ⟨hc, hs⟩ := not_or.1 (mt List.mem_cons.2 h)
    rw [List.cons_append, splitLiteral_other (Ne.symm hc) (by simp), ih hs]
    rfl

theorem splitThrough_of_notMem {stop : Char} (h : stop ∉ s) (u : List Char) :
    splitThrough stop (s ++ stop :: u) = (s ++ [stop], u) := by
  induction s with
  | nil => simp [splitThrough]
  | cons c s ih =>
    obtain ⟨hc, hs⟩ := not_or.1 (mt List.mem_cons.2 h)
    rw [List.cons_append, splitThrough, if_neg (Ne.symm hc), ih hs]
    rfl

@[simp] theorem nesting_nil : nesting [] = 0 := rfl

@[simp] theorem nesting_cons (p : CommentPart) (parts : List CommentPart) :
    nesting (p :: parts) = p.weight + nesting parts := rfl

theorem commentParts_eq_nil (h : commentParts s = []) : s = [] := by
  fun_cases commentParts s <;> simp_all [commentParts]

/-- A comment ends where the parts behind its opening bring the depth back to zero. -/
theorem splitComment_of_nesting {depth : Nat} (hclose : depth + 1 + nesting (commentParts s) = 0)
    (hfirst : ∀ n < (commentParts s).length, depth + 1 + nesting ((commentParts s).take n) ≠ 0)
    (u : List Char) : splitComment depth (s ++ u) = (s, u) := by
  fun_induction commentParts s generalizing depth with
  | case1 rest ih =>
    simp only [nesting_cons, CommentPart.weight] at hclose
    have hrest : splitComment (depth + 1) (rest ++ u) = (rest, u) := by
      refine ih (by push_cast; omega) fun n hn => ?_
      have := hfirst (n + 1) (by simpa using hn)
      simp only [List.take_succ_cons, nesting_cons, CommentPart.weight] at this
      push_cast
      omega
    simp [splitComment, hrest, prepend]
  | case2 rest ih =>
    simp only [nesting_cons, CommentPart.weight] at hclose
    cases depth with
    | zero =>
      -- the depth is zero behind this part, so it is the last one
      have hlast : ¬ 1 < (CommentPart.closing :: commentParts rest).length := by
        intro hlen
        exact hfirst 1 hlen (by simp [CommentPart.weight])
      have hrest : rest = [] := commentParts_eq_nil (List.length_eq_zero_iff.1 (by
        simp only [List.length_cons] at hlast
        omega))
      subst hrest
      rfl
    | succ depth =>
      have hrest : splitComment depth (rest ++ u) = (rest, u) := by
        refine ih (by push_cast at hclose; omega) fun n hn => ?_
        have := hfirst (n + 1) (by simpa using hn)
        simp only [List.take_succ_cons, nesting_cons, CommentPart.weight] at this
        push_cast at this
        omega
      simp [splitComment, hrest, prepend]
  | case3 c rest ho hc ih =>
    simp only [nesting_cons, CommentPart.weight] at hclose
    have hne : rest ≠ [] := by
      rintro rfl
      simp [commentParts] at hclose
      omega
    obtain ⟨d, t, rfl⟩ := List.exists_cons_of_ne_nil hne
    have hrest : splitComment depth (d :: t ++ u) = (d :: t, u) := by
      refine ih (by omega) fun n hn => ?_
      have := hfirst (n + 1) (by simpa using hn)
      simp only [List.take_succ_cons, nesting_cons, CommentPart.weight] at this
      omega
    rw [List.cons_append, splitComment_other, hrest]
    · rfl
    · rintro hslash hstar
      obtain rfl : d = '*' := Option.some.inj hstar
      exact ho t hslash rfl
    · rintro hstar hslash
      obtain rfl : d = '/' := Option.some.inj hslash
      exact hc t hstar rfl
  | case4 =>
    simp at hclose
    omega

theorem splitBehind_of_endsAtTag {tag body : List Char} (htag : tag ≠ [])
    (h : EndsAtTag tag body) (u : List Char) :
    splitBehind tag (body ++ tag ++ u) = (body ++ tag, u) := by
  induction body with
  | nil =>
    obtain ⟨d, t, rfl⟩ := List.exists_cons_of_ne_nil htag
    simp [splitBehind]
  | cons c body ih =>
    -- the tag is not found here: it would end before the text does
    have hno : ¬ tag.isPrefixOf (c :: (body ++ tag ++ u)) = true := by
      intro hpre
      have hshort : tag <+: c :: (body ++ tag) := by
        refine List.prefix_of_prefix_length_le (List.isPrefixOf_iff_prefix.1 hpre)
          (List.prefix_append _ u) ?_
        rw [List.length_cons, List.length_append]
        omega
      obtain ⟨y, hy⟩ := hshort
      obtain rfl : y = [] := h [] y hy.symm
      have hlen := congrArg List.length hy
      simp only [List.length_append, List.length_cons, List.length_nil] at hlen
      omega
    have hbody : EndsAtTag tag body := fun x y hxy => h (c :: x) y (by
      rw [List.cons_append, hxy]
      rfl)
    show splitBehind tag (c :: (body ++ tag ++ u)) = _
    rw [splitBehind, if_neg hno, ih hbody]
    rfl

/-! ## Regions are inert -/

/-- A complete text without placeholders. -/
structure Inert (marker : Char) (s : List Char) : Prop where
  complete : Complete marker s
  names : namesOf (lexemes marker s) = []

theorem Inert.append (hs : Inert marker s) (ht : Inert marker t) : Inert marker (s ++ t) :=
  ⟨hs.complete.append ht.complete, by
    rw [hs.complete, namesOf_append, hs.names, ht.names, List.append_nil]⟩

theorem Inert.scan_eq_nil {s : String} (h : Inert marker s.toList) : scan s marker = [] := by
  have := map_name_scan s marker
  rw [h.names] at this
  exact List.map_eq_nil_iff.1 this

theorem Inert.skipped {a r : String} (hr : Inert marker r.toList)
    (ha : Complete marker a.toList) (b : String) : Skipped marker a r b := by
  have har : Complete marker (a ++ r).toList := by
    rw [String.toList_append]
    exact ha.append hr.complete
  rw [Skipped, har.scan_append, ha.scan_append, hr.scan_eq_nil, List.map_nil, List.append_nil]

/-- A doubled quote ends one region and starts the next. -/
theorem inert_quotedText {q : Char} (h : ∀ s, q ∉ s → Inert marker (q :: s ++ [q]))
    (s : List Char) : Inert marker (quotedText q s) := by
  suffices hfrom : ∀ t, q ∉ t → Inert marker (q :: t ++ doubled q s ++ [q]) from hfrom [] (by simp)
  induction s with
  | nil => exact fun t ht => by simpa [doubled] using h t ht
  | cons c s ih =>
    intro t ht
    by_cases hc : c = q
    · have := (h t ht).append (ih [] (by simp))
      simpa [doubled, hc] using this
    · have := ih (t ++ [c]) (by simp [ht, Ne.symm hc])
      simpa [doubled, hc] using this

section
variable (hm : IsMarker marker) (hd : marker ≠ '$')
include hm hd

theorem inert_of_fits (kind : Region) (h : ∀ u, Fits marker .start (.region kind s) u) :
    Inert marker s := by
  have htext : textOf marker [.region kind s] = s := by simp [Lexeme.text]
  have hread (u : List Char) : Reads marker .start [.region kind s] u :=
    ⟨by simpa using h u, trivial⟩
  obtain ⟨hs, hl⟩ := complete_of_reads hread (Context.neutral_after_region hm hd _ kind s)
  rw [htext] at hs hl
  exact ⟨hs, by rw [hl]; rfl⟩

theorem inert_literal (h : '\'' ∉ s) : Inert marker ('\'' :: s ++ ['\'']) := by
  refine inert_of_fits hm hd .literal fun u => ⟨'\'', s ++ ['\''], rfl, ?_⟩
  have hs := splitLiteral_of_notMem h u
  simp [nextLexeme, (Context.neutral_start marker).opensEscapes, hs]

theorem inert_quotedName (h : '"' ∉ s) : Inert marker ('"' :: s ++ ['"']) := by
  refine inert_of_fits hm hd .quotedName fun u => ⟨'"', s ++ ['"'], rfl, ?_⟩
  have hs := splitThrough_of_notMem h u
  simp [nextLexeme, hs]

theorem inert_lineComment (h : '\n' ∉ s) : Inert marker ('-' :: '-' :: s ++ ['\n']) := by
  refine inert_of_fits hm hd .lineComment fun u => ⟨'-', '-' :: s ++ ['\n'], rfl, ?_⟩
  have hs : splitThrough '\n' ('-' :: (s ++ '\n' :: u)) = ('-' :: (s ++ ['\n']), u) :=
    splitThrough_of_notMem (s := '-' :: s) (by simpa using h) u
  simp [nextLexeme, hs]

theorem inert_blockComment (h : IsBlockComment s) : Inert marker s := by
  obtain ⟨⟨t, rfl⟩, hclose, hfirst⟩ := h
  refine inert_of_fits hm hd .blockComment fun u => ⟨'/', '*' :: t, rfl, ?_⟩
  have hs : splitComment 0 (t ++ u) = (t, u) := by
    refine splitComment_of_nesting ?_ (fun n hn => ?_) u
    · simpa [commentParts, CommentPart.weight] using hclose
    · have := hfirst (n + 1) (by simpa [commentParts] using hn) (by omega)
      simpa [commentParts, CommentPart.weight] using this
  simp [nextLexeme, hs]

theorem inert_dollarBody {name body : List Char} (hname : IsTagName name)
    (h : EndsAtTag (dollarTag name) body) :
    Inert marker (dollarTag name ++ body ++ dollarTag name) := by
  refine inert_of_fits hm hd .dollarBody fun u =>
    ⟨'$', name ++ '$' :: (body ++ dollarTag name), by simp [Lexeme.text, dollarTag], ?_⟩
  have htag : dollarTag? (name ++ '$' :: (body ++ dollarTag name) ++ u) =
      some (name, body ++ dollarTag name ++ u) := by
    rw [dollarTag?_eq_some_iff]
    exact ⟨by simp, hname⟩
  have hs := splitBehind_of_endsAtTag (List.cons_ne_nil _ _) h u
  unfold nextLexeme
  rw [htag, if_neg (by decide), if_neg (by decide), if_neg (by simp), if_neg (by simp),
    if_pos ⟨rfl, rfl⟩]
  change splitBehind ('$' :: name ++ ['$']) (body ++ dollarTag name ++ u) = _ at hs
  simp only [hs]
  simp [dollarTag]

theorem ClosedRegion.inert (h : ClosedRegion s) : Inert marker s := by
  cases h with
  | literal s => exact inert_quotedText (fun _ => inert_literal hm hd) s
  | quotedName s => exact inert_quotedText (fun _ => inert_quotedName hm hd) s
  | lineComment s h => exact inert_lineComment hm hd h
  | blockComment s h => exact inert_blockComment hm hd h
  | dollarBody name body hname h => exact inert_dollarBody hm hd hname h

/-- Closed regions are skipped behind every finished text and in front of every other. -/
theorem skipped_closedRegion {a r : String} (ha : Finished marker a) (hr : ClosedRegion r.toList)
    (b : String) : Skipped marker a r b :=
  (hr.inert hm hd).skipped (ha.complete hm hd) b

end

theorem skipped_closedRegion_nested_comment :
    let a := "x = @p -- it's\n"
    let r := "/* it's /* @q */ */"
    let b := "'@r' = @s"
    IsMarker '@' ∧ '@' ≠ '$' ∧ Finished '@' a ∧ ClosedRegion r.toList ∧
      scan (a ++ r ++ b) '@' = [⟨4, 6, "p"⟩, ⟨41, 43, "s"⟩] := by
  intro a r b
  have hm : IsMarker '@' := ⟨by decide, by decide, by decide, by decide⟩
  have ha : Finished '@' a := .inr ⟨by decide +kernel, by decide⟩
  have hr : ClosedRegion r.toList := .blockComment _ ⟨by decide, by decide, by decide⟩
  exact ⟨hm, by decide, ha, hr,
    (skipped_closedRegion hm (by decide) ha hr b).trans (by decide +kernel)⟩

end SqlAccess

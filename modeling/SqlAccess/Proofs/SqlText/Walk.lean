import SqlAccess.Proofs.SqlText.Extent
import SqlAccess.SqlText.Cursor

/-!
# The walk over bytes

The cursor that walks over the bytes of a text (`Cursor.walk?`) never fails and finds what the
lexemes of the text say (`walk?_eq_scan`). Each rule that moves it stops where the lexeme that is
read there ends, so what it needs is one equation a rule; the cursor stands behind the lexemes read
so far and carries what their context remembers, and that context sees the text in front
(`Context.Sees`), so looking at the text again gives the same answer.
-/

namespace SqlAccess

variable {marker : Char} {sql : String} {ctx : Context} {front rest : List Char}

/-! ## Ends of regions -/

/-- `split` takes along everything up to the first place where `stops` holds, and `past` bytes from
there on. -/
structure SplitsPast (stops : List Char → Bool) (past : Nat)
    (split : List Char → List Char × List Char) : Prop where
  nil : (split []).1 = []
  stop : ∀ c rest, stops (c :: rest) = true → byteLength (split (c :: rest)).1 = past
  go : ∀ c rest, stops (c :: rest) = false → (split (c :: rest)).1 = c :: (split rest).1

variable {stops : List Char → Bool} {past : Nat} {split : List Char → List Char × List Char}

theorem SplitsPast.byteLength_eq (h : SplitsPast stops past split) (s : List Char) :
    byteLength (split s).1 =
      match bytesBefore? stops s with
      | some n => n + past
      | none => byteLength s := by
  fun_induction bytesBefore? stops s with
  | case1 => rw [h.nil]
  | case2 c rest hc => exact (h.stop c rest hc).trans (Nat.zero_add past).symm
  | case3 c rest hc ih =>
    rw [h.go c rest (by simpa using hc), byteLength, ih]
    cases bytesBefore? stops rest with
    | none => rfl
    | some n => exact (Nat.add_assoc _ _ _).symm

theorem SplitsPast.stopBehind? (h : SplitsPast stops past split)
    (htext : sql.toList = front ++ rest) :
    stopBehind? sql (byteLength front) past stops =
      some (byteLength (front ++ (split rest).1)) := by
  rw [SqlAccess.stopBehind?, Text.from?_of_append htext, byteLength_append, h.byteLength_eq]
  simp only [Option.pure_def, Option.bind_eq_bind, Option.bind_some, String.toList_ofList]
  cases bytesBefore? stops rest with
  | some n => exact congrArg some (Nat.add_assoc _ _ _)
  | none =>
    have hall : byteLength front + byteLength rest = sql.utf8ByteSize := by
      rw [← byteLength_append, ← htext, byteLength_toList]
    exact congrArg some hall.symm

theorem splitThrough_splitsPast (stop : Char) :
    SplitsPast (·.head? == some stop) stop.utf8Size (splitThrough stop) where
  nil := rfl
  stop c rest hc := by
    obtain rfl : c = stop := by simpa using hc
    simp [splitThrough, byteLength]
  go c rest hc := by
    have hc : c ≠ stop := by simpa using hc
    simp [splitThrough, hc, prepend]

theorem splitBehind_splitsPast (tag : List Char) :
    SplitsPast tag.isPrefixOf (byteLength tag) (splitBehind tag) where
  nil := rfl
  stop c rest hc := by rw [splitBehind, if_pos hc]
  go c rest hc := by
    rw [splitBehind, if_neg (by simp [hc])]
    rfl

theorem span_splitsPast :
    SplitsPast (fun s => s.head?.any (!isWordChar ·)) 0
      fun s => (s.takeWhile isWordChar, s.dropWhile isWordChar) where
  nil := rfl
  stop c rest hc := by
    have hc : isWordChar c = false := by simpa using hc
    simp [hc, byteLength]
  go c rest hc := by
    have hc : isWordChar c = true := by simpa using hc
    simp [hc]

theorem literalEnd_eq (escapes : Bool) (byte : Nat) (s : List Char) :
    literalEnd escapes byte s = byte + byteLength (splitLiteral escapes s).1 := by
  fun_induction literalEnd escapes byte s with
  | case1 byte => rfl
  | case2 byte c hc =>
    obtain ⟨rfl, rfl⟩ : escapes = true ∧ c = '\\' := by simpa using hc
    rfl
  | case3 byte c hc d rest ih =>
    obtain ⟨rfl, rfl⟩ : escapes = true ∧ c = '\\' := by simpa using hc
    rw [ih, splitLiteral_escape, prepend, byteLength_append]
    simp only [byteLength]
    omega
  | case4 byte rest hc =>
    rw [splitLiteral_quote]
    rfl
  | case5 byte c rest hc hq ih =>
    rw [ih, splitLiteral_other hq hc, prepend, byteLength_append]
    simp only [byteLength]
    omega

/-! ## Comments -/

theorem commentEnd?_open (depth : Nat) (h : sql.toList = front ++ '/' :: '*' :: rest) :
    commentEnd? sql depth (byteLength front) =
      commentEnd? sql (depth + 1) (byteLength (front ++ ['/', '*'])) := by
  have hopen : ['/', '*'].isPrefixOf ('/' :: '*' :: rest) = true := by simp
  rw [commentEnd?.eq_def, if_pos (byteLength_lt h), Text.from?_of_append h, byteLength_append]
  simp only [Option.bind_eq_bind, Option.bind_some, String.toList_ofList, hopen, if_true]
  rfl

theorem commentEnd?_close (depth : Nat) (h : sql.toList = front ++ '*' :: '/' :: rest) :
    commentEnd? sql (depth + 1) (byteLength front) =
      if depth = 0 then some (byteLength (front ++ ['*', '/']))
      else commentEnd? sql depth (byteLength (front ++ ['*', '/'])) := by
  have hopen : ['/', '*'].isPrefixOf ('*' :: '/' :: rest) = false := rfl
  have hclose : ['*', '/'].isPrefixOf ('*' :: '/' :: rest) = true := by simp
  rw [commentEnd?.eq_def, if_pos (byteLength_lt h), Text.from?_of_append h, byteLength_append]
  simp only [Option.bind_eq_bind, Option.bind_some, String.toList_ofList, hopen, hclose, if_true,
    Bool.false_eq_true, if_false]
  cases depth <;> rfl

theorem commentEnd?_other {c : Char} (depth : Nat) (h : sql.toList = front ++ c :: rest)
    (hopen : c = '/' → rest.head? ≠ some '*') (hclose : c = '*' → rest.head? ≠ some '/') :
    commentEnd? sql depth (byteLength front) =
      commentEnd? sql depth (byteLength (front ++ [c])) := by
  have hno {a b : Char} (hab : c = a → rest.head? ≠ some b) :
      [a, b].isPrefixOf (c :: rest) = false := by
    rw [Bool.eq_false_iff, Ne, List.isPrefixOf_iff_prefix]
    rintro ⟨t, ht⟩
    obtain ⟨rfl, rfl⟩ := List.cons.inj ht
    exact hab rfl rfl
  rw [commentEnd?.eq_def, if_pos (byteLength_lt h), Text.from?_of_append h, byteLength_concat]
  simp only [Option.bind_eq_bind, Option.bind_some, String.toList_ofList, hno hopen, hno hclose,
    Bool.false_eq_true, if_false]

/-- Inside `depth + 1` comments, the last of them ends where the split for `depth` further ones
does. -/
theorem commentEnd?_of_append (depth : Nat) (h : sql.toList = front ++ rest) :
    commentEnd? sql (depth + 1) (byteLength front) =
      some (byteLength (front ++ (splitComment depth rest).1)) := by
  fun_induction splitComment depth rest generalizing front with
  | case1 depth =>
    have hend : byteLength front = sql.utf8ByteSize := by
      rw [← byteLength_toList, h, List.append_nil]
    rw [commentEnd?.eq_def, if_neg (by omega), List.append_nil]
  | case2 depth rest ih =>
    rw [commentEnd?_open _ h, ih (by simp [h])]
    simp [prepend]
  | case3 rest => exact (commentEnd?_close 0 h).trans (if_pos rfl)
  | case4 depth rest ih =>
    rw [commentEnd?_close _ h, if_neg (Nat.succ_ne_zero _), ih (by simp [h])]
    simp [prepend]
  | case5 depth c rest ho hc hc' ih =>
    have hopen : c = '/' → rest.head? ≠ some '*' := by
      intro hslash hstar
      obtain ⟨t, ht⟩ := List.head?_eq_some_iff.1 hstar
      exact ho t hslash ht
    have hclose : c = '*' → rest.head? ≠ some '/' := by
      intro hstar hslash
      obtain ⟨t, ht⟩ := List.head?_eq_some_iff.1 hslash
      cases depth with
      | zero => exact hc t rfl hstar ht
      | succ depth => exact hc' depth t rfl hstar ht
    rw [commentEnd?_other _ h hopen hclose, ih (by simp [h])]
    simp [prepend]

/-! ## Dollar-quoted bodies -/

theorem nameEnd?_eq (byte : Nat) (s : List Char) :
    nameEnd? byte s =
      if (s.dropWhile isWordChar).head? = some '$' then
        some (byte + byteLength (s.takeWhile isWordChar) + 1)
      else none := by
  fun_induction nameEnd? byte s with
  | case1 byte => rfl
  | case2 byte rest => simp [isWordChar_dollar, byteLength]
  | case3 byte c rest hne hc ih =>
    rw [ih, List.dropWhile_cons_of_pos hc, List.takeWhile_cons_of_pos hc, byteLength]
    simp only [Nat.add_assoc]
  | case4 byte c rest hne hc =>
    rw [List.dropWhile_cons_of_neg hc, if_neg (by simpa using hne)]

/-- The cursor finds a tag where the text has one. -/
theorem tagEnd?_of_append (h : sql.toList = front ++ '$' :: rest) :
    tagEnd? sql (byteLength front) =
      some ((dollarTag? rest).map fun s => byteLength (front ++ ('$' :: s.1 ++ ['$']))) := by
  have hone : '$'.utf8Size = 1 := rfl
  have hnext : byteLength front + 1 = byteLength (front ++ ['$']) :=
    (byteLength_concat front '$').symm
  rw [tagEnd?, hnext, Text.from?_of_append (h.trans (List.append_cons _ _ _))]
  simp only [Option.pure_def, Option.bind_eq_bind, Option.bind_some, String.toList_ofList]
  cases rest with
  | nil => rfl
  | cons c rest =>
    simp only [dollarTag?, nameEnd?_eq]
    by_cases hc : c = '$'
    · simp [hc, byteLength_append, byteLength, hone]
    rw [if_neg hc, if_neg hc]
    by_cases hopen : (Text.isAlphabetic c || c == '_') = true
    · rw [if_pos hopen, if_pos hopen]
      by_cases hbody : (rest.dropWhile isWordChar).head? = some '$'
      · obtain ⟨body, hbody'⟩ := List.head?_eq_some_iff.1 hbody
        rw [if_pos hbody]
        simp only [hbody', Option.map_some, byteLength_append, byteLength, hone]
        congr 2
        omega
      · rw [if_neg hbody]
        split
        · next body hbody' => exact absurd (by rw [hbody']; rfl) hbody
        · rfl
    · rw [if_neg hopen, if_neg hopen]
      rfl

/-! ## One rule after the other -/

/-- The cursor behind `front`, with the character that the context remembers. -/
def Context.cursor (front : List Char) (ctx : Context) : Cursor :=
  ⟨byteLength front, ctx.prev⟩

@[simp] theorem cursor_byte (front : List Char) (ctx : Context) :
    (ctx.cursor front).byte = byteLength front := rfl

@[simp] theorem cursor_prev (front : List Char) (ctx : Context) :
    (ctx.cursor front).prev = ctx.prev := rfl

/-- What the cursor reads again in front of an `E` is what the context remembers of it. -/
theorem opensEscapes?_cursor (hctx : ctx.Sees front) (h : sql.toList = front ++ rest) :
    (ctx.cursor front).opensEscapes? sql = some ctx.opensEscapes := by
  rw [Cursor.opensEscapes?, Context.opensEscapes, cursor_prev, cursor_byte]
  by_cases hE : ctx.prev = some 'E' ∨ ctx.prev = some 'e'
  · obtain ⟨e, he, hword, hone⟩ :
        ∃ e, ctx.prev = some e ∧ isWordChar e = true ∧ e.utf8Size = 1 := by
      rcases hE with hE | hE <;> exact ⟨_, hE, by decide, rfl⟩
    have hlast : front.getLast? = some e := by
      rcases hctx.prev with hp | ⟨-, hp⟩
      · exact hp.symm.trans he
      · rw [hp] at hE
        exact absurd hE (by decide)
    obtain ⟨inside, rfl⟩ := List.getLast?_eq_some_iff.1 hlast
    have hbefore := hctx.before (by rw [Context.inWord, he, Option.any_some, hword])
    have hmarks : (ctx.prev == some 'E' || ctx.prev == some 'e') = true := by simpa using hE
    rw [if_pos hE, byteLength_append, byteLength, byteLength, hone, hmarks, hbefore,
      List.dropLast_concat]
    simp only [Text.before?_of_append (h.trans (List.append_assoc _ _ _)), Option.map_some,
      String.toList_ofList, Bool.true_and]
  · have hmarks : (ctx.prev == some 'E' || ctx.prev == some 'e') = false := by simpa using hE
    rw [if_neg hE, hmarks, Bool.false_and]

theorem behindLiteral?_cursor (hctx : ctx.Sees front) (h : sql.toList = front ++ '\'' :: rest) :
    (ctx.cursor front).behindLiteral? sql =
      some ⟨byteLength (front ++ '\'' :: (splitLiteral ctx.opensEscapes rest).1), some '\''⟩ := by
  have hnext : (ctx.cursor front).byte + 1 = byteLength (front ++ ['\'']) :=
    (byteLength_concat front '\'').symm
  rw [Cursor.behindLiteral?, opensEscapes?_cursor hctx h, hnext,
    Text.from?_of_append (h.trans (List.append_cons _ _ _))]
  simp only [Option.pure_def, Option.bind_eq_bind, Option.bind_some, String.toList_ofList]
  rw [literalEnd_eq, ← byteLength_append, ← List.append_cons]

theorem behindQuotedName?_cursor (h : sql.toList = front ++ '"' :: rest) :
    (ctx.cursor front).behindQuotedName? sql =
      some ⟨byteLength (front ++ '"' :: (splitThrough '"' rest).1), some '"'⟩ := by
  have hnext : (ctx.cursor front).byte + 1 = byteLength (front ++ ['"']) :=
    (byteLength_concat front '"').symm
  rw [Cursor.behindQuotedName?, hnext,
    show 1 = '"'.utf8Size from rfl,
    (splitThrough_splitsPast '"').stopBehind? (h.trans (List.append_cons _ _ _)), Option.map_some,
    ← List.append_cons]

theorem behindLineComment?_cursor (h : sql.toList = front ++ '-' :: rest) :
    (ctx.cursor front).behindLineComment? sql =
      some ⟨byteLength (front ++ '-' :: (splitThrough '\n' rest).1), some '\n'⟩ := by
  have hsplit := (splitThrough_splitsPast '\n').stopBehind? h
  rw [Cursor.behindLineComment?]
  exact congrArg (Option.map _) hsplit

theorem behindBlockComment?_cursor (h : sql.toList = front ++ '/' :: '*' :: rest) :
    (ctx.cursor front).behindBlockComment? sql =
      some ⟨byteLength (front ++ '/' :: '*' :: (splitComment 0 rest).1), some ' '⟩ := by
  have hinside : sql.toList = front ++ ['/', '*'] ++ rest := by simp [h]
  rw [Cursor.behindBlockComment?, cursor_byte, commentEnd?_open 0 h,
    commentEnd?_of_append 0 hinside, Option.map_some, List.append_assoc]
  rfl

theorem behindDollarBody?_cursor {tag body : List Char} (h : sql.toList = front ++ (tag ++ body)) :
    (ctx.cursor front).behindDollarBody? sql (byteLength (front ++ tag)) =
      some ⟨byteLength (front ++ (tag ++ (splitBehind tag body).1)), some '$'⟩ := by
  have hsplit := (splitBehind_splitsPast tag).stopBehind? (h.trans (List.append_assoc _ _ _).symm)
  rw [Cursor.behindDollarBody?, Context.cursor, Text.between?_of_append h]
  simp only [Option.pure_def, Option.bind_eq_bind, Option.bind_some, String.toList_ofList,
    ← byteLength_eq_utf8ByteSize, hsplit, List.append_assoc]

theorem readPlaceholder?_cursor (h : sql.toList = front ++ marker :: rest) :
    (ctx.cursor front).readPlaceholder? sql marker =
      let text := (Lexeme.placeholder (rest.takeWhile isWordChar)).text marker
      some (⟨byteLength (front ++ text), text.getLast?⟩,
        [⟨byteLength front, byteLength (front ++ text),
          String.ofList (rest.takeWhile isWordChar)⟩]) := by
  have hname : (ctx.cursor front).byte + marker.utf8Size = byteLength (front ++ [marker]) :=
    (byteLength_concat front marker).symm
  have hbehind := h.trans (List.append_cons _ _ _)
  have hrest : sql.toList =
      front ++ [marker] ++ (rest.takeWhile isWordChar ++ rest.dropWhile isWordChar) := by
    rw [List.takeWhile_append_dropWhile, hbehind]
  have hall := hrest.trans (List.append_assoc _ _ _).symm
  have hlast : (front ++ [marker] ++ rest.takeWhile isWordChar).getLast? =
      (marker :: rest.takeWhile isWordChar).getLast? := by
    rw [← List.append_cons, List.getLast?_append,
      List.getLast?_eq_some_getLast (List.cons_ne_nil _ _), Option.some_or]
  rw [Cursor.readPlaceholder?, hname]
  simp only [span_splitsPast.stopBehind? hbehind, Option.pure_def, Option.bind_eq_bind,
    Option.bind_some, Text.between?_of_append hrest, Text.before?_of_append hall,
    String.toList_ofList, Lexeme.text, hlast]
  rw [← List.append_cons]
  rfl

/-! ## One step -/

theorem prev_foldl_push_cons (ctx : Context) (c : Char) (s : List Char) :
    ((c :: s).foldl Context.push ctx).prev = (c :: s).getLast? := by
  have h := Context.prev_foldl_push ctx (c :: s).dropLast ((c :: s).getLast (List.cons_ne_nil c s))
  rwa [List.dropLast_concat_getLast, ← List.getLast?_eq_some_getLast] at h

theorem openTag?_cursor {c : Char} (h : sql.toList = front ++ c :: rest) :
    (ctx.cursor front).openTag? sql c =
      some ((if c = '$' ∧ ctx.inWord = false then dollarTag? rest else none).map
        fun s => byteLength (front ++ ('$' :: s.1 ++ ['$']))) := by
  rw [Cursor.openTag?]
  change (if c = '$' ∧ ctx.inWord = false then _ else _) = _
  split
  · next hc =>
    obtain ⟨rfl, -⟩ := hc
    exact tagEnd?_of_append h
  · rfl

/-- The cursor moves behind the lexeme that is read where it stands, and finds it if it is a
placeholder. -/
theorem step?_cursor {c : Char} (hctx : ctx.Sees front) (h : sql.toList = front ++ c :: rest) :
    (ctx.cursor front).step? sql marker =
      let l := (nextLexeme marker ctx c rest).1
      some ((ctx.after marker l).cursor (front ++ l.text marker),
        placeholdersFrom marker (byteLength front) [l]) := by
  have hbehind := Text.from?_of_append (h.trans (List.append_cons _ _ _))
  rw [byteLength_concat] at hbehind
  rw [Cursor.step?, cursor_byte, Text.from?_of_append h]
  simp only [Option.pure_def, Option.bind_eq_bind, Option.bind_some, String.toList_ofList, hbehind]
  unfold nextLexeme
  split
  · next hq =>
    subst hq
    rw [behindLiteral?_cursor hctx h]
    rfl
  split
  · next hqq =>
    subst hqq
    rw [behindQuotedName?_cursor h]
    rfl
  split
  · next hdash =>
    obtain ⟨rfl, -⟩ := hdash
    rw [behindLineComment?_cursor h]
    rfl
  split
  · next hslash =>
    obtain ⟨rfl, hstar⟩ := hslash
    obtain ⟨rest, rfl⟩ := List.head?_eq_some_iff.1 hstar
    rw [behindBlockComment?_cursor h]
    rfl
  rw [openTag?_cursor h, Option.bind_some]
  cases hopen : if c = '$' ∧ ctx.inWord = false then dollarTag? rest else none with
  | some tag =>
    obtain ⟨name, body⟩ := tag
    obtain ⟨rfl, hdollar⟩ : c = '$' ∧ dollarTag? rest = some (name, body) := by
      split at hopen
      · next hc => exact ⟨hc.1, hopen⟩
      · cases hopen
    have htext : sql.toList = front ++ ('$' :: name ++ ['$'] ++ body) := by
      rw [h, ← dollarTag?_append hdollar]
      simp
    simp only [Option.map_some, behindDollarBody?_cursor htext]
    rfl
  | none =>
    change (if opensPlaceholder marker ctx c rest = true then _ else _) = _
    simp only
    split
    · next hmarker =>
      obtain rfl : c = marker := by simp_all [opensPlaceholder]
      rw [readPlaceholder?_cursor h]
      simp only [Context.cursor, Context.after, Lexeme.trace, Lexeme.text, prev_foldl_push_cons,
        placeholdersFrom, byteLength_append]
    · rw [Context.cursor, byteLength_append]
      rfl

/-! ## The whole walk -/

theorem walk?_of_step {k next : Cursor} {found : List Placeholder}
    (hend : k.byte < sql.utf8ByteSize) (hstep : k.step? sql marker = some (next, found))
    (hlt : k.byte < next.byte) :
    Cursor.walk? sql marker k = (Cursor.walk? sql marker next).map (found ++ ·) := by
  rw [Cursor.walk?, if_pos hend, hstep]
  exact if_pos hlt

theorem placeholdersFrom_cons (marker : Char) (start : Nat) (l : Lexeme) (ls : List Lexeme) :
    placeholdersFrom marker start (l :: ls) =
      placeholdersFrom marker start [l] ++
        placeholdersFrom marker (start + byteLength (l.text marker)) ls := by
  cases l <;> rfl

/-- Behind lexemes that have been read, the cursor finds the rest of them. -/
theorem walk?_cursor (hctx : rest ≠ [] → ctx.Sees front) (h : sql.toList = front ++ rest) :
    Cursor.walk? sql marker (ctx.cursor front) =
      some (placeholdersFrom marker (byteLength front) (lexemesFrom marker ctx rest)) := by
  fun_induction lexemesFrom marker ctx rest generalizing front with
  | case1 ctx =>
    have hend : byteLength front = sql.utf8ByteSize := by
      rw [← byteLength_toList, h, List.append_nil]
    rw [Cursor.walk?, cursor_byte, if_neg (by omega)]
    rfl
  | case2 ctx c rest ih =>
    have hctx := hctx (List.cons_ne_nil c rest)
    have hfits := fits_nextLexeme marker ctx c rest
    have happ := nextLexeme_append marker ctx c rest
    have hstep : (ctx.cursor front).step? sql marker = _ := step?_cursor hctx h
    generalize (nextLexeme marker ctx c rest).1 = l at *
    generalize (nextLexeme marker ctx c rest).2 = behind at *
    have h : sql.toList = front ++ l.text marker ++ behind := by rw [h, ← happ, List.append_assoc]
    have hlt : byteLength front < byteLength (front ++ l.text marker) := by
      have hne : byteLength (l.text marker) ≠ 0 := fun h0 =>
        hfits.text_ne_nil (eq_nil_of_byteLength_eq_zero h0)
      rw [byteLength_append]
      omega
    have hend : byteLength front < sql.utf8ByteSize := Nat.lt_of_lt_of_le hlt (byteLength_le h)
    rw [walk?_of_step hend hstep hlt, ih (fun hne => hctx.after hfits hne) h, Option.map_some,
      byteLength_append]
    exact congrArg some (placeholdersFrom_cons marker _ l _).symm

/-- The walk over the bytes of a text never fails, and finds the placeholders of the text. -/
theorem walk?_eq_scan (sql : String) (marker : Char) :
    Cursor.walk? sql marker ⟨0, none⟩ = some (scan sql marker) :=
  walk?_cursor (fun _ => Context.sees_start) rfl

/-- Whatever the marker is, the walk over the bytes of a text is never led astray: no part of the
text is cut off inside a character and no comment is closed that is not open. What it finds are
ranges of bytes in text order that do not overlap, and each spells the marker and a whole word which
neither a word nor a marker comes before; only a slash as marker may stand behind another, that ends
a comment. -/
theorem scan_extents (sql : String) (marker : Char) :
    Cursor.walk? sql marker ⟨0, none⟩ = some (scan sql marker) ∧
      (scan sql marker).Pairwise (fun p q => p.start < q.start ∧ p.stop ≤ q.start) ∧
      ∀ p ∈ scan sql marker, p.Extent sql marker :=
  ⟨walk?_eq_scan sql marker, pairwise_placeholdersFrom marker 0 _, fun _ => extent_of_mem_scan⟩

-- a slash that marks a placeholder behind the slash of a comment
example : scan "/**//x" '/' = [⟨4, 6, "x"⟩] := by decide +kernel

end SqlAccess

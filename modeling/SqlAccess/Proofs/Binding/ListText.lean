import SqlAccess.Proofs.Binding.Referent
import SqlAccess.Proofs.SqlText.Expansion

/-!
# Lists written out

The text that takes the place of a list's placeholder is read as the placeholders of its items, or
as the word `NULL` (`standsFor_itemLexemes`). So binding a list to a command replaces the list's
first placeholder among the lexemes of the text (`Command.lexemes_bindList`).
-/

namespace SqlAccess

variable {marker : Char} {ctx : Context} {u : List Char}

/-- Placeholders of the given names with a comma and a space between them. -/
def joined : List (List Char) → List Lexeme
  | [] => []
  | [name] => [.placeholder name]
  | name :: names => .placeholder name :: .plain ',' :: .plain ' ' :: joined names

/-- What the list called `name` is written out as. -/
def itemLexemes (name : String) (count : Nat) : List Lexeme :=
  if count = 0 then "NULL".toList.map .plain
  else joined ((List.range count).map fun i => (itemLabel name i).toList)

theorem textOf_joined (marker : Char) (names : List (List Char)) :
    textOf marker (joined names) = [',', ' '].intercalate (names.map (marker :: ·)) := by
  fun_induction joined names with
  | case1 => rfl
  | case2 name => simp [Lexeme.text]
  | case3 name names hne ih =>
    obtain ⟨next, names, rfl⟩ := List.exists_cons_of_ne_nil hne
    simp [Lexeme.text, ih]

theorem textOf_itemLexemes (marker : Char) (name : String) (count : Nat) :
    textOf marker (itemLexemes name count) = (listReference marker name count).toList := by
  by_cases hc : count = 0
  · simp only [itemLexemes, listReference, if_pos hc]
    rfl
  · simp only [itemLexemes, listReference, if_neg hc, textOf_joined, String.toList_intercalate,
      List.map_map]
    congr 1
    refine List.map_congr_left fun i _ => ?_
    simp [itemName_eq, fullName]

/-! ## The items are read -/

/-- Of a word, only the first letter decides whether a placeholder is read. -/
theorem fits_placeholder_cons_iff (hm : IsMarker marker) {d : Char} {t : List Char}
    (hw : ∀ c ∈ d :: t, isWordChar c = true) :
    Fits marker ctx (.placeholder (d :: t)) u ↔
      ctx.inWord = false ∧ ctx.prev ≠ some marker ∧
        (∀ c, u.head? = some c → isWordChar c = false) ∧
        (marker = '$' → (Text.isAlphabetic d || d == '_') = true → u.head? ≠ some '$') := by
  rw [fits_placeholder_iff hm]
  constructor
  · rintro ⟨hctx, hprev, -, -, hu, hdollar⟩
    exact ⟨hctx, hprev, hu, fun hd => (dollarTag?_word hw hu).1 (hdollar hd)⟩
  · rintro ⟨hctx, hprev, hu, hdollar⟩
    refine ⟨hctx, hprev, List.cons_ne_nil d t, hw, hu, fun hd => ?_⟩
    exact (dollarTag?_word hw hu).2 (hdollar hd)

theorem reads_joined (hm : IsMarker marker) {d : Char} {t : List Char}
    (hw : ∀ c ∈ d :: t, isWordChar c = true) {names : List (List Char)}
    (hnames : ∀ n ∈ names, ∃ s, n = d :: s ∧ ∀ c ∈ n, isWordChar c = true)
    (h : Fits marker ctx (.placeholder (d :: t)) u) : Reads marker ctx (joined names) u := by
  obtain ⟨hctx, hprev, hu, hdollar⟩ := (fits_placeholder_cons_iff hm hw).1 h
  fun_induction joined names generalizing ctx with
  | case1 => trivial
  | case2 name =>
    obtain ⟨s, rfl, hs⟩ := hnames name (by simp)
    exact ⟨(fits_placeholder_cons_iff hm hs).2 ⟨hctx, hprev, hu, hdollar⟩, trivial⟩
  | case3 name names hne ih =>
    obtain ⟨s, rfl, hs⟩ := hnames name (by simp)
    have hblank : isWordChar ' ' = false := by decide
    have hspace : ' ' ≠ marker := by
      rintro rfl
      exact absurd hm.not_blank (by decide)
    refine ⟨?_, ?_, ?_, ?_⟩
    · refine (fits_placeholder_cons_iff hm hs).2 ⟨hctx, hprev, ?_, fun _ _ => by simp [Lexeme.text]⟩
      rintro c ⟨⟩
      decide
    · refine fits_plain_of_ne (by decide) ?_
      simp [opensPlaceholder, Lexeme.text, hblank]
    · refine fits_plain_of_ne (by decide) ?_
      simp [opensPlaceholder, hspace]
    · have hprev' : some ' ' ≠ some marker := by simpa using hspace
      refine ih (fun n hn => hnames n (List.mem_cons_of_mem _ hn)) ?_ hblank hprev'
      exact (fits_placeholder_cons_iff hm hw).2 ⟨hblank, hprev', hu, hdollar⟩

theorem inWord_behind_joined {names : List (List Char)} (hne : names ≠ [])
    (hnames : ∀ n ∈ names, n ≠ [] ∧ ∀ c ∈ n, isWordChar c = true) (ctx : Context) :
    (ctx.behind marker (joined names)).inWord = true := by
  fun_induction joined names generalizing ctx with
  | case1 => exact absurd rfl hne
  | case2 name =>
    obtain ⟨hname, hw⟩ := hnames name (by simp)
    exact Context.inWord_after_placeholder marker ctx hname hw
  | case3 name names hne' ih => exact ih hne' (fun n hn => hnames n (List.mem_cons_of_mem _ hn)) _

theorem joined_ne_nil {names : List (List Char)} (hne : names ≠ []) : joined names ≠ [] := by
  fun_cases joined names with
  | case1 => exact absurd rfl hne
  | case2 name => exact List.cons_ne_nil _ _
  | case3 name names hne' => exact List.cons_ne_nil _ _

theorem getLast?_joined {names : List (List Char)} {l : Lexeme}
    (h : (joined names).getLast? = some l) : ∃ name ∈ names, l = .placeholder name := by
  fun_induction joined names with
  | case1 => cases h
  | case2 name => exact ⟨name, by simp, (Option.some.inj h).symm⟩
  | case3 name names hne ih =>
    rw [List.getLast?_cons_of_ne_nil (by simp), List.getLast?_cons_of_ne_nil (by simp),
      List.getLast?_cons_of_ne_nil (joined_ne_nil hne)] at h
    obtain ⟨next, hnext, rfl⟩ := ih h
    exact ⟨next, List.mem_cons_of_mem _ hnext, rfl⟩

theorem separated_joined (marker : Char) (names : List (List Char)) :
    Separated marker (joined names) := by
  fun_induction joined names with
  | case1 => exact .nil
  | case2 name => exact .singleton _
  | case3 name names hne ih =>
    refine .cons_cons ⟨?_, fun _ => by simp [Lexeme.text]⟩
      (.cons_cons (Lexeme.apart_plain marker ',' ' ') ?_)
    · intro h
      cases h
    · refine List.isChain_cons.2 ⟨fun l _ => ⟨fun _ => by simp [Lexeme.text], ?_⟩, ih⟩
      intro h
      cases h

/-! ## Standing for a list -/

theorem standsFor_joined (hm : IsMarker marker) {d : Char} {t : List Char}
    (hw : ∀ c ∈ d :: t, isWordChar c = true) {names : List (List Char)} (hne : names ≠ [])
    (hnames : ∀ n ∈ names, ∃ s, n = d :: s ∧ ∀ c ∈ n, isWordChar c = true) :
    StandsFor marker (d :: t) (joined names) where
  reads _ _ h := reads_joined hm hw hnames h
  inWord ctx := by
    refine inWord_behind_joined hne (fun n hn => ?_) ctx
    obtain ⟨s, rfl, hs⟩ := hnames n hn
    exact ⟨List.cons_ne_nil d s, hs⟩
  head := by
    refine ⟨marker, ?_, .inl rfl⟩
    fun_cases joined names with
    | case1 => exact absurd rfl hne
    | case2 name => rfl
    | case3 name names hne' => rfl
  last l hl := by
    obtain ⟨n, hn, rfl⟩ := getLast?_joined hl
    obtain ⟨s, rfl, hs⟩ := hnames n hn
    rw [Lexeme.text, List.getLast?_cons_cons, List.getLast?_eq_some_getLast (by simp)]
    intro hlast
    have := hs _ (List.getLast_mem (List.cons_ne_nil d s))
    rw [Option.some.inj hlast, isWordChar_dollar] at this
    cases this
  separated := separated_joined marker names

theorem standsFor_null (hm : IsMarker marker) (name : List Char) :
    StandsFor marker name ("NULL".toList.map .plain) where
  reads _ _ _ := reads_word hm (List.all_eq_true.1 (by decide))
  inWord ctx := by
    show isWordChar 'L' = true
    decide
  head := ⟨'N', rfl, .inr (by decide)⟩
  last l hl := by
    obtain rfl : .plain 'L' = l := Option.some.inj hl
    simp [Lexeme.text]
  separated := by
    have h := Lexeme.apart_plain marker
    exact .cons_cons (h _ _) (.cons_cons (h _ _) (.cons_cons (h _ _) (.singleton _)))

theorem isWordChar_of_mem_digits {c : Char} {i : Nat} (h : c ∈ Nat.toDigits 10 i) :
    isWordChar c = true := by
  have hd := Nat.isDigit_of_mem_toDigits (by decide) (by decide) h
  have hlt : c.toNat < 128 := by
    simp only [Char.isDigit, Bool.and_eq_true, decide_eq_true_eq] at hd
    have : c.toNat ≤ 57 := UInt32.le_iff_toNat_le.1 hd.2
    omega
  simp [isWordChar, Text.isAlphanumeric, Text.isNumeric, hlt, hd]

/-- A list written out can stand wherever a placeholder of its name does. -/
theorem standsFor_itemLexemes (hm : IsMarker marker) {name : String} (hne : name.toList ≠ [])
    (hw : ∀ c ∈ name.toList, isWordChar c = true) (count : Nat) :
    StandsFor marker name.toList (itemLexemes name count) := by
  by_cases hc : count = 0
  · rw [itemLexemes, if_pos hc]
    exact standsFor_null hm _
  · rw [itemLexemes, if_neg hc]
    obtain ⟨d, t, hname⟩ := List.exists_cons_of_ne_nil hne
    rw [hname] at hw ⊢
    refine standsFor_joined hm hw (by simpa using hc) fun n hn => ?_
    obtain ⟨i, -, rfl⟩ := List.mem_map.1 hn
    rw [toList_itemLabel, hname]
    refine ⟨t ++ '_' :: Nat.toDigits 10 i, rfl, fun c hc => ?_⟩
    rcases List.mem_append.1 hc with hc | hc
    · exact hw c hc
    · rcases List.mem_cons.1 hc with rfl | hc
      · decide
      · exact isWordChar_of_mem_digits hc

/-! ## Binding a list -/

/-- Binding a list writes it out in the place of its first placeholder. -/
theorem Command.lexemes_bindList (hm : IsMarker marker) {c : Command}
    (hs : Separated marker (lexemes marker c.text.toList)) (name : String) (items : List Value) :
    lexemes marker (c.bindList marker name items).text.toList =
        expandFirst name.toList (itemLexemes name items.length) (lexemes marker c.text.toList) ∧
      Separated marker (lexemes marker (c.bindList marker name items).text.toList) :=
  lexemes_replaceFirst hm hs (fun hw hne => standsFor_itemLexemes hm hne hw items.length)
    (textOf_itemLexemes marker name items.length)

end SqlAccess

import Mathlib.Data.List.TakeWhile
import SqlAccess.SqlText.Lexeme

/-!
# Closed regions

A region that does not reach the end of the text is closed, and what follows a closed region has no
part in it: `splitLiteral_locally`, `splitThrough_locally`, `splitComment_locally` and
`splitBehind_locally`. Whether a dollar sign opens a body is decided by the tag
(`dollarTag?_eq_some_iff`), and where there is none, by the first character that cannot be in a
name (`dollarTag?_none_of_append`).
-/

namespace SqlAccess

/-- Where a split leaves something of a text, anything else could stand there. -/
def SplitsLocally (split : List Char → List Char × List Char) : Prop :=
  ∀ s, (split s).2 ≠ [] → ∀ u, split ((split s).1 ++ u) = ((split s).1, u)

theorem SplitsLocally.eq {split : List Char → List Char × List Char} (hf : SplitsLocally split)
    {s t w : List Char} (h : split s = (t, w)) (hw : w ≠ []) (u : List Char) :
    split (t ++ u) = (t, u) := by
  have := hf s (by rwa [h]) u
  rwa [h] at this

/-! ## Literals, quoted names and comments -/

theorem splitLiteral_quote (escapes : Bool) (rest : List Char) :
    splitLiteral escapes ('\'' :: rest) = (['\''], rest) := by
  simp [splitLiteral.eq_def]

theorem splitLiteral_escape (d : Char) (rest : List Char) :
    splitLiteral true ('\\' :: d :: rest) = prepend ['\\', d] (splitLiteral true rest) := by
  rw [splitLiteral.eq_def]
  rfl

theorem splitLiteral_other {escapes : Bool} {c : Char} (hq : c ≠ '\'')
    (he : ¬ (escapes && c == '\\') = true) (rest : List Char) :
    splitLiteral escapes (c :: rest) = prepend [c] (splitLiteral escapes rest) := by
  rw [splitLiteral.eq_def]
  simp only [hq, he, if_false, Bool.false_eq_true]

theorem splitComment_other {c : Char} {rest : List Char} (ho : c = '/' → rest.head? ≠ some '*')
    (hc : c = '*' → rest.head? ≠ some '/') (depth : Nat) :
    splitComment depth (c :: rest) = prepend [c] (splitComment depth rest) := by
  rw [splitComment.eq_def]
  split <;> simp_all

theorem splitLiteral_locally (escapes : Bool) : SplitsLocally (splitLiteral escapes) := by
  intro s h u
  fun_induction splitLiteral escapes s with
  | case1 => exact absurd rfl h
  | case2 rest => exact splitLiteral_quote escapes u
  | case3 c hc hesc => exact absurd rfl h
  | case4 c hc hesc d rest ih =>
    obtain ⟨rfl, rfl⟩ : escapes = true ∧ c = '\\' := by simpa using hesc
    show splitLiteral true ('\\' :: d :: ((splitLiteral true rest).1 ++ u)) = _
    rw [splitLiteral_escape, ih h]
    rfl
  | case5 c rest hc hesc ih =>
    show splitLiteral escapes (c :: ((splitLiteral escapes rest).1 ++ u)) = _
    rw [splitLiteral_other hc hesc, ih h]
    rfl

theorem splitThrough_locally (stop : Char) : SplitsLocally (splitThrough stop) := by
  intro s h u
  fun_induction splitThrough stop s with
  | case1 => exact absurd rfl h
  | case2 rest => simp [splitThrough]
  | case3 c rest hc ih => simp [prepend, splitThrough, hc, ih h]

theorem splitThrough_ne_nil {stop : Char} {s : List Char} (hs : s ≠ []) :
    (splitThrough stop s).1 ≠ [] := by
  fun_cases splitThrough stop s with
  | case1 => exact absurd rfl hs
  | _ => simp [prepend]

/-- A split takes along the first character. -/
theorem head?_of_append {a b s : List Char} (h : a ++ b = s) (ha : s ≠ [] → a ≠ [])
    (u : List Char) (hs : s ≠ []) : (a ++ u).head? = s.head? := by
  obtain ⟨c, t, rfl⟩ := List.exists_cons_of_ne_nil (ha hs)
  rw [← h]
  rfl

theorem splitComment_ne_nil {depth : Nat} {s : List Char} (hs : s ≠ []) :
    (splitComment depth s).1 ≠ [] := by
  fun_cases splitComment depth s with
  | case1 => exact absurd rfl hs
  | _ => simp [prepend]

theorem splitComment_locally (depth : Nat) : SplitsLocally (splitComment depth) := by
  intro s h u
  fun_induction splitComment depth s with
  | case1 => exact absurd rfl h
  | case2 depth rest ih => simp [prepend, splitComment, ih h]
  | case3 rest => simp [splitComment]
  | case4 depth rest ih => simp [prepend, splitComment, ih h]
  | case5 depth c rest ho hc hc' ih =>
    have hrest : rest ≠ [] := by
      rintro rfl
      exact h rfl
    have hhead := head?_of_append (splitComment_append depth rest)
      (fun hs => splitComment_ne_nil hs) u hrest
    show splitComment depth (c :: ((splitComment depth rest).1 ++ u)) = _
    rw [splitComment_other, ih h]
    · rfl
    · intro hslash hstar
      rw [hhead] at hstar
      obtain ⟨t, ht⟩ := List.head?_eq_some_iff.1 hstar
      exact ho t hslash ht
    · intro hstar hslash
      rw [hhead] at hslash
      obtain ⟨t, ht⟩ := List.head?_eq_some_iff.1 hslash
      cases depth with
      | zero => exact hc t rfl hstar ht
      | succ n => exact hc' n t rfl hstar ht

/-! ## Last characters -/

theorem suffix_splitLiteral {escapes : Bool} {s : List Char} (h : (splitLiteral escapes s).2 ≠ []) :
    ['\''] <:+ (splitLiteral escapes s).1 := by
  fun_induction splitLiteral escapes s with
  | case1 => exact absurd rfl h
  | case2 rest => exact List.suffix_refl _
  | case3 c hc hesc => exact absurd rfl h
  | case4 c hc hesc d rest ih => exact (ih h).trans (List.suffix_append [c, d] _)
  | case5 c rest hc hesc ih => exact (ih h).trans (List.suffix_append [c] _)

theorem suffix_splitThrough {stop : Char} {s : List Char} (h : (splitThrough stop s).2 ≠ []) :
    [stop] <:+ (splitThrough stop s).1 := by
  fun_induction splitThrough stop s with
  | case1 => exact absurd rfl h
  | case2 rest => exact List.suffix_refl _
  | case3 c rest hc ih => exact (ih h).trans (List.suffix_append [c] _)

theorem suffix_splitComment {depth : Nat} {s : List Char} (h : (splitComment depth s).2 ≠ []) :
    ['/'] <:+ (splitComment depth s).1 := by
  fun_induction splitComment depth s with
  | case1 => exact absurd rfl h
  | case2 depth rest ih => exact (ih h).trans (List.suffix_append ['/', '*'] _)
  | case3 rest => exact List.suffix_append ['*'] ['/']
  | case4 depth rest ih => exact (ih h).trans (List.suffix_append ['*', '/'] _)
  | case5 depth c rest ho hc hc' ih => exact (ih h).trans (List.suffix_append [c] _)

/-! ## Dollar-quoted bodies -/

/-- The first part of a split that leaves something ends in the tag. -/
theorem suffix_splitBehind {tag s : List Char} (h : (splitBehind tag s).2 ≠ []) :
    tag <:+ (splitBehind tag s).1 := by
  fun_induction splitBehind tag s with
  | case1 => exact absurd rfl h
  | case2 c rest hp => exact List.suffix_refl tag
  | case3 c rest hp ih => exact (ih h).trans (List.suffix_cons c _)

theorem splitBehind_locally {tag : List Char} (htag : tag ≠ []) :
    SplitsLocally (splitBehind tag) := by
  intro s h u
  fun_induction splitBehind tag s with
  | case1 => exact absurd rfl h
  | case2 c rest hp =>
    obtain ⟨d, t, rfl⟩ := List.exists_cons_of_ne_nil htag
    simp [splitBehind]
  | case3 c rest hp ih =>
    -- the tag is no longer than what is split off, so it cannot reach into `u`
    have hlen : tag.length ≤ (splitBehind tag rest).1.length := (suffix_splitBehind h).length_le
    have hno : ¬ tag.isPrefixOf (c :: ((splitBehind tag rest).1 ++ u)) = true := by
      intro hpre
      refine hp (List.isPrefixOf_iff_prefix.2 ?_)
      have hshort : tag <+: c :: (splitBehind tag rest).1 :=
        List.prefix_of_prefix_length_le (List.isPrefixOf_iff_prefix.1 hpre)
          (List.prefix_append _ _) (Nat.le_trans hlen (Nat.le_succ _))
      rw [← splitBehind_append tag rest]
      exact hshort.trans (List.prefix_append _ _)
    show splitBehind tag (c :: ((splitBehind tag rest).1 ++ u)) = _
    rw [splitBehind, if_neg hno, ih h]
    rfl

/-- What may stand between the dollar signs of a tag: nothing, or a word that starts with a letter
or an underscore. -/
def IsTagName (name : List Char) : Prop :=
  (∀ c ∈ name, isWordChar c = true) ∧
    ∀ c, name.head? = some c → (Text.isAlphabetic c || c == '_') = true

theorem isWordChar_dollar : isWordChar '$' = false := by decide

theorem isWordChar_of_opensTag {c : Char} (h : (Text.isAlphabetic c || c == '_') = true) :
    isWordChar c = true := by
  simp only [isWordChar, Text.isAlphanumeric, Bool.or_eq_true] at h ⊢
  rcases h with h | h
  · exact .inl (.inl h)
  · exact .inr h

section
variable {name u : List Char} (hname : ∀ c ∈ name, isWordChar c = true)
  (hu : ∀ c, u.head? = some c → isWordChar c = false)
include hname hu

theorem takeWhile_word : (name ++ u).takeWhile isWordChar = name := by
  rw [List.takeWhile_append_of_pos hname]
  cases u with
  | nil => simp
  | cons c u => rw [List.takeWhile_cons_of_neg (by simp [hu c rfl]), List.append_nil]

theorem dropWhile_word : (name ++ u).dropWhile isWordChar = u := by
  rw [List.dropWhile_append_of_pos hname]
  cases u with
  | nil => rfl
  | cons c u => rw [List.dropWhile_cons_of_neg (by simp [hu c rfl])]

end

theorem dollarTag?_eq_some_iff {s name body : List Char} :
    dollarTag? s = some (name, body) ↔ s = name ++ '$' :: body ∧ IsTagName name := by
  constructor
  · intro h
    refine ⟨(dollarTag?_append h).symm, ?_⟩
    unfold dollarTag? at h
    split at h
    · cases h
    · next c rest =>
      split at h
      · cases h
        exact ⟨by simp, by simp⟩
      · split at h
        · next hopen =>
          split at h
          · cases h
            refine ⟨?_, by simpa using hopen⟩
            intro d hd
            rcases List.mem_cons.1 hd with rfl | hd
            · exact isWordChar_of_opensTag hopen
            · exact List.mem_takeWhile_imp hd
          · cases h
        · cases h
  · rintro ⟨rfl, hw, hopen⟩
    cases name with
    | nil => simp [dollarTag?]
    | cons c name =>
      have hne : c ≠ '$' := by
        rintro rfl
        simpa [isWordChar_dollar] using hw '$'
      have hname : ∀ d ∈ name, isWordChar d = true := fun d hd => hw d (List.mem_cons_of_mem c hd)
      have hdollar : ∀ d, ('$' :: body).head? = some d → isWordChar d = false := by
        rintro d ⟨⟩
        exact isWordChar_dollar
      have hopen := hopen c rfl
      simp only [List.cons_append, dollarTag?, if_neg hne, hopen, if_true,
        dropWhile_word hname hdollar, takeWhile_word hname hdollar]

theorem dollarTag?_eq_none_iff {s : List Char} :
    dollarTag? s = none ↔ ∀ name body, s = name ++ '$' :: body → ¬ IsTagName name := by
  rw [Option.eq_none_iff_forall_not_mem]
  simp only [Option.mem_def, Prod.forall, dollarTag?_eq_some_iff, not_and]

/-- A dollar sign that opens nothing opens nothing whatever comes behind a character that cannot
be in a name. -/
theorem dollarTag?_none_of_append {s w : List Char} (hs : ∃ c ∈ s, isWordChar c = false)
    (h : dollarTag? (s ++ w) = none) (u : List Char) : dollarTag? (s ++ u) = none := by
  refine dollarTag?_eq_none_iff.2 fun name body happ htag => ?_
  rcases List.append_eq_append_iff.1 happ with ⟨t, rfl, -⟩ | ⟨t, rfl, ht⟩
  · obtain ⟨c, hc, hcw⟩ := hs
    rw [htag.1 c (List.mem_append_left t hc)] at hcw
    cases hcw
  · cases t with
    | nil =>
      obtain ⟨c, hc, hcw⟩ := hs
      rw [htag.1 c (by simpa using hc)] at hcw
      cases hcw
    | cons d t =>
      obtain ⟨rfl, -⟩ := List.cons.inj ht
      exact dollarTag?_eq_none_iff.1 h name (t ++ w) (by simp) htag

/-- Behind a word, a dollar sign closes a tag unless the word starts with a number. -/
theorem dollarTag?_word {c : Char} {name u : List Char} (hw : ∀ d ∈ c :: name, isWordChar d = true)
    (hu : ∀ d, u.head? = some d → isWordChar d = false) :
    dollarTag? (c :: name ++ u) = none ↔
      ((Text.isAlphabetic c || c == '_') = true → u.head? ≠ some '$') := by
  rw [dollarTag?_eq_none_iff]
  constructor
  · intro h hopen hhead
    obtain ⟨body, rfl⟩ := List.head?_eq_some_iff.1 hhead
    exact h (c :: name) body rfl ⟨hw, by simpa using hopen⟩
  · intro h tag body happ htag
    have hboth : tag = c :: name ∧ u = '$' :: body := by
      rcases List.append_eq_append_iff.1 happ with ⟨t, rfl, hu'⟩ | ⟨t, hname, ht⟩
      · cases t with
        | nil => exact ⟨by simp, hu'⟩
        | cons d t =>
          have hd := htag.1 d (List.mem_append_right _ List.mem_cons_self)
          rw [hu d (by rw [hu']; rfl)] at hd
          cases hd
      · cases t with
        | nil => exact ⟨by simpa using hname.symm, by simpa using ht.symm⟩
        | cons d t =>
          obtain ⟨rfl, -⟩ := List.cons.inj ht
          have hd := hw '$' (by rw [hname]; simp)
          rw [isWordChar_dollar] at hd
          cases hd
    obtain ⟨rfl, rfl⟩ := hboth
    exact h (htag.2 c rfl) rfl

end SqlAccess

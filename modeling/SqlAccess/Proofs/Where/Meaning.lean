import Mathlib.Data.List.Forall2
import Mathlib.Data.List.TakeWhile
import SqlAccess.Proofs.Where.Token
import SqlAccess.Proofs.Where.Formula

/-!
# What clauses mean

`Step.value` says what steps mean without their text: conditions are atoms, a level is cut into
pieces at its `OR`s, a piece is a conjunction. `Keywords.read?` reads a text by the rules of
precedence. The two agree: the text of a clause of atoms can be read, and is true just if the steps
are (`Step.body_means_steps`).
-/

namespace SqlAccess

/-! ## Symbols of a text -/

/-- Which words are keywords. Readers may differ in it, but the connectors and the negation are
keywords to each of them. -/
structure Keywords where
  keyword? : String → Option Keyword
  and : keyword? "AND" = some .and
  or : keyword? "OR" = some .or
  not : keyword? "NOT" = some .not

/-- The symbols that a character stands for if it does not belong to a word. -/
def separator? (c : Char) : Option (List Symbol) :=
  if c = '(' then some [.opening]
  else if c = ')' then some [.closing]
  else if Text.isBlank c then some []
  else none

namespace Keywords

variable (K : Keywords)

def symbolOf (word : List Char) : Symbol :=
  match K.keyword? (String.ofList word) with
  | some k => .keyword k
  | none => .operand (String.ofList word)

/-- The symbols of a text behind the beginning of a word. -/
def symbolsFrom (word : List Char) : List Char → List Symbol
  | [] => if word = [] then [] else [K.symbolOf word]
  | c :: rest =>
    match separator? c with
    | some symbols =>
      (if word = [] then [] else [K.symbolOf word]) ++ (symbols ++ symbolsFrom [] rest)
    | none => symbolsFrom (word ++ [c]) rest

def symbols (s : List Char) : List Symbol :=
  K.symbolsFrom [] s

/-- The formula that a text is read as. -/
def read? (s : String) : Option Formula :=
  Formula.parse? (K.symbols s.toList)

/-- A single word that is no keyword. -/
structure IsAtom (c : String) : Prop where
  ne_nil : c.toList ≠ []
  word : ∀ d ∈ c.toList, separator? d = none
  keyword : K.keyword? c = none

instance (c : String) : Decidable (K.IsAtom c) :=
  decidable_of_iff (c.toList ≠ [] ∧ c.toList.all (separator? · = none) = true ∧ K.keyword? c = none)
    ⟨fun h => ⟨h.1, by simpa using h.2.1, h.2.2⟩,
      fun h => ⟨h.ne_nil, by simpa using h.word, h.keyword⟩⟩

variable {K}

theorem separator?_blank : separator? ' ' = some [] := by decide

theorem symbolsFrom_append {c : Char} {symbols : List Symbol} (h : separator? c = some symbols)
    (word s t : List Char) :
    K.symbolsFrom word (s ++ c :: t) = K.symbolsFrom word s ++ (symbols ++ K.symbols t) := by
  induction s generalizing word with
  | nil => simp [symbolsFrom, h, Keywords.symbols]
  | cons d s ih =>
    simp only [List.cons_append, symbolsFrom]
    cases separator? d with
    | none => exact ih (word ++ [d])
    | some symbols' => simp [ih]

theorem symbols_append {c : Char} {symbols : List Symbol} (h : separator? c = some symbols)
    (s t : List Char) :
    K.symbols (s ++ c :: t) = K.symbols s ++ (symbols ++ K.symbols t) :=
  symbolsFrom_append h [] s t

theorem symbolsFrom_of_word {s : List Char} (h : ∀ d ∈ s, separator? d = none) (word : List Char) :
    K.symbolsFrom word s = if word ++ s = [] then [] else [K.symbolOf (word ++ s)] := by
  induction s generalizing word with
  | nil => simp [symbolsFrom]
  | cons d s ih =>
    rw [symbolsFrom, h d List.mem_cons_self]
    show K.symbolsFrom (word ++ [d]) s = _
    rw [ih (fun e he => h e (List.mem_cons_of_mem d he))]
    simp

theorem symbols_word {s : List Char} (hne : s ≠ []) (h : ∀ d ∈ s, separator? d = none) :
    K.symbols s = [K.symbolOf s] := by
  rw [symbols, symbolsFrom_of_word h, List.nil_append, if_neg hne]

theorem IsAtom.symbols {c : String} (h : K.IsAtom c) : K.symbols c.toList = [.operand c] := by
  rw [symbols_word h.ne_nil h.word, symbolOf, String.ofList_toList, h.keyword]

theorem symbols_keyword {w : String} {k : Keyword} (hne : w.toList ≠ [])
    (h : w.toList.all (separator? · = none) = true) (hk : K.keyword? w = some k) :
    K.symbols w.toList = [.keyword k] := by
  rw [symbols_word hne (by simpa using h), symbolOf, String.ofList_toList, hk]

theorem symbols_not : K.symbols "NOT".toList = [.keyword .not] :=
  symbols_keyword (by decide) (by decide) K.not

/-- The keyword of a connector. -/
def connectorKeyword (useOr : Bool) : Keyword :=
  if useOr then .or else .and

theorem symbols_connector (useOr : Bool) :
    K.symbols (WhereClause.connector useOr).toList = [.keyword (connectorKeyword useOr)] := by
  cases useOr with
  | true => exact symbols_keyword (by decide) (by decide) K.or
  | false => exact symbols_keyword (by decide) (by decide) K.and

end Keywords

/-! ## Meaning of steps -/

/-- What a step that appends something means in its clause. -/
structure Member where
  negate : Bool
  useOr : Bool
  value : Bool

def Member.holds (m : Member) : Bool :=
  if m.negate then !m.value else m.value

/-- Members cut in front of each that starts with `OR`, the first one excepted. -/
def pieces : List Member → List (List Member)
  | [] => []
  | m :: ms => (m :: ms.takeWhile (!·.useOr)) :: pieces (ms.dropWhile (!·.useOr))
termination_by ms => ms.length
decreasing_by exact Nat.lt_succ_of_le (List.dropWhile_sublist _).length_le

/-- A level holds if all members of one of its pieces do. -/
def levelValue (ms : List Member) : Bool :=
  (pieces ms).any (·.all (·.holds))

namespace Step

open WhereClause

mutual

/-- What a step means, unless it is dropped. -/
def member? (truth : String → Bool) : Step → Option Member
  | .condition guard c negate useOr =>
    if guard.isMet then (nonBlank c).map fun c => ⟨negate, useOr, truth c⟩ else none
  | .group guard cs negate useOr innerOr =>
    if guard.isMet then
      match cs.filterMap nonBlank with
      | [] => none
      | cs => some ⟨negate, useOr, if innerOr then cs.any truth else cs.all truth⟩
    else none
  | .nested guard steps negate useOr =>
    if guard.isMet then
      match members truth steps with
      | [] => none
      | ms => some ⟨negate, useOr, levelValue ms⟩
    else none
  | .clear => none

/-- What the steps of a level mean, dropped ones left out. -/
def members (truth : String → Bool) : List Step → List Member
  | [] => []
  | step :: rest => (member? truth step).toList ++ members truth rest

end

/-- Whether the steps hold as the conditions of one clause. -/
def value (truth : String → Bool) (steps : List Step) : Bool :=
  levelValue (members truth steps)

end Step

/-! ## Reading entries -/

namespace Entry

variable {K : Keywords} {truth : String → Bool}

/-- The entry is read as what the member means. -/
structure Means (K : Keywords) (truth : String → Bool) (e : Entry) (m : Member) : Prop where
  negate : e.negate = m.negate
  useOr : e.useOr = m.useOr
  body : ∃ f, Parses .primary (K.symbols e.body.toList) f ∧ f.eval truth = m.value

/-- The symbols of an entry without its connector. -/
def symbols (K : Keywords) (e : Entry) : List Symbol :=
  K.symbols e.negated.toList

theorem symbols_connected (e : Entry) :
    K.symbols e.connected.toList =
      .keyword (Keywords.connectorKeyword e.useOr) :: e.symbols K := by
  have htext : e.connected.toList =
      (WhereClause.connector e.useOr).toList ++ ' ' :: e.negated.toList := by
    simp [connected]
  rw [htext, Keywords.symbols_append Keywords.separator?_blank, Keywords.symbols_connector]
  rfl

theorem Means.parses {e : Entry} {m : Member} (h : e.Means K truth m) :
    ∃ f, Parses .negation (e.symbols K) f ∧ f.eval truth = m.holds := by
  obtain ⟨f, hf, hv⟩ := h.body
  rw [symbols, negated, Member.holds, ← h.negate]
  cases e.negate with
  | false => exact ⟨f, .primary hf, hv⟩
  | true =>
    have htext : ("NOT " ++ e.body).toList = "NOT".toList ++ ' ' :: e.body.toList := by simp
    refine ⟨.not f, ?_, by simp [Formula.eval, hv]⟩
    rw [if_pos rfl, htext, Keywords.symbols_append Keywords.separator?_blank, Keywords.symbols_not]
    exact .not (.primary hf)

end Entry

section
variable {K : Keywords} {truth : String → Bool} {es : List Entry} {ms : List Member}

theorem symbols_levelText (e : Entry) (es : List Entry) :
    K.symbols (levelText (e :: es)) = e.symbols K ++ es.flatMap fun e =>
      .keyword (Keywords.connectorKeyword e.useOr) :: e.symbols K := by
  suffices h : ∀ s, K.symbols (s ++ es.flatMap fun e => ' ' :: e.connected.toList) =
      K.symbols s ++ es.flatMap fun e =>
        .keyword (Keywords.connectorKeyword e.useOr) :: e.symbols K from h e.negated.toList
  induction es with
  | nil => simp
  | cons e es ih =>
    intro s
    rw [List.flatMap_cons, ← List.append_assoc, ih, List.flatMap_cons,
      Keywords.symbols_append Keywords.separator?_blank, e.symbols_connected, List.nil_append,
      List.append_assoc]

/-! ## Reading a level -/

/-- What a level means behind a conjunction that means `b`. -/
theorem levelValue_cons (m : Member) (ms : List Member) :
    levelValue (m :: ms) = ((m.holds && (ms.takeWhile (!·.useOr)).all (·.holds)) ||
      levelValue (ms.dropWhile (!·.useOr))) := by
  rw [levelValue, pieces, List.any_cons, List.all_cons]
  rfl

/-- Reading goes on behind a conjunction `f`, in front of which disjuncts may stand. -/
theorem parses_behind (h : List.Forall₂ (Entry.Means K truth) es ms) {d : Option Formula}
    {f : Formula} {ds cs : List Symbol} (hd : Formula.Before .or .disjunction d ds)
    (hf : Parses .conjunction cs f) :
    ∃ g, Parses .disjunction (ds ++ cs ++ es.flatMap fun e =>
        .keyword (Keywords.connectorKeyword e.useOr) :: e.symbols K) g ∧
      g.eval truth = (d.any (·.eval truth) ||
        ((f.eval truth && (ms.takeWhile (!·.useOr)).all (·.holds)) ||
          levelValue (ms.dropWhile (!·.useOr)))) := by
  induction h generalizing d f ds cs with
  | nil =>
    refine ⟨Formula.joined .or d f, by simpa using hd.or hf, ?_⟩
    cases d <;> simp [Formula.joined, Formula.eval, levelValue, pieces]
  | @cons e m es ms hm h ih =>
    obtain ⟨f', hf', hv⟩ := hm.parses
    rw [List.flatMap_cons]
    cases hor : m.useOr with
    | true =>
      -- the conjunction so far is one more disjunct
      have hd' : Formula.Before .or .disjunction (some (Formula.joined .or d f))
          (ds ++ cs ++ [.keyword .or]) := ⟨ds ++ cs, rfl, hd.or hf⟩
      obtain ⟨g, hg, hgv⟩ := ih hd' (.negation hf')
      refine ⟨g, ?_, ?_⟩
      · simpa [hm.useOr, hor, Keywords.connectorKeyword] using hg
      · rw [hgv, hv]
        cases d <;>
          simp [Formula.joined, Formula.eval, hor, levelValue_cons, Bool.or_assoc]
    | false =>
      obtain ⟨g, hg, hgv⟩ := ih hd (.and hf hf')
      refine ⟨g, ?_, ?_⟩
      · simpa [hm.useOr, hor, Keywords.connectorKeyword] using hg
      · rw [hgv]
        simp [Formula.eval, hv, hor, Bool.and_assoc]

/-- The text of entries is read as what the level means. -/
theorem parses_levelText (h : List.Forall₂ (Entry.Means K truth) es ms) (hne : es ≠ []) :
    ∃ f, Parses .disjunction (K.symbols (levelText es)) f ∧ f.eval truth = levelValue ms := by
  cases h with
  | nil => exact absurd rfl hne
  | @cons e m es ms hm h =>
    obtain ⟨f, hf, hv⟩ := hm.parses
    have hd : Formula.Before .or .disjunction none [] := rfl
    obtain ⟨g, hg, hgv⟩ := parses_behind h hd (.negation hf)
    refine ⟨g, by rwa [symbols_levelText], ?_⟩
    rw [hgv, hv, levelValue_cons]
    rfl

/-- A level in parentheses is read as one operand. -/
theorem parses_parenthesized (h : List.Forall₂ (Entry.Means K truth) es ms) (hne : es ≠ []) :
    ∃ f, Parses .primary (K.symbols ('(' :: levelText es ++ [')'])) f ∧
      f.eval truth = levelValue ms := by
  obtain ⟨f, hf, hv⟩ := parses_levelText h hne
  refine ⟨f, ?_, hv⟩
  have hopen : separator? '(' = some [.opening] := by decide
  have hclose : separator? ')' = some [.closing] := by decide
  have hsymbols : K.symbols ('(' :: levelText es ++ [')']) =
      .opening :: K.symbols (levelText es) ++ [.closing] := by
    have := Keywords.symbols_append (K := K) hopen [] (levelText es ++ [')'])
    rw [List.nil_append] at this
    rw [List.cons_append, this, Keywords.symbols_append hclose]
    rfl
  rw [hsymbols]
  exact .parenthesized hf

/-! ## Groups -/

theorem levelValue_map (truth : String → Bool) (innerOr : Bool) {cs : List String} (hne : cs ≠ []) :
    levelValue (cs.map fun c => ⟨false, innerOr, truth c⟩) =
      if innerOr then cs.any truth else cs.all truth := by
  cases innerOr with
  | true =>
    rw [if_pos rfl]
    clear hne
    induction cs with
    | nil => simp [levelValue, pieces]
    | cons c cs ih =>
      rw [List.map_cons, levelValue_cons, List.any_cons, ← ih]
      cases cs <;> simp [Member.holds]
  | false =>
    obtain ⟨c, cs, rfl⟩ := List.exists_cons_of_ne_nil hne
    have hall : ∀ m ∈ cs.map (fun c => (⟨false, false, truth c⟩ : Member)), (!m.useOr) = true := by
      intro m hm
      obtain ⟨c, -, rfl⟩ := List.mem_map.1 hm
      rfl
    rw [List.map_cons, levelValue_cons, List.takeWhile_eq_self_iff.2 hall,
      List.dropWhile_eq_nil_iff.2 hall]
    simp [Member.holds, levelValue, pieces, List.all_map, Function.comp_def]

end

/-! ## Steps and their texts -/

namespace Step

variable {K : Keywords} {truth : String → Bool}

theorem means_conditions {cs : List String} (h : ∀ c ∈ cs, K.IsAtom c) (innerOr : Bool) :
    List.Forall₂ (Entry.Means K truth) (cs.map (⟨·, false, innerOr⟩))
      (cs.map fun c => ⟨false, innerOr, truth c⟩) := by
  rw [List.forall₂_map_left_iff, List.forall₂_map_right_iff, List.forall₂_same]
  intro c hc
  refine ⟨rfl, rfl, .atom c, ?_, rfl⟩
  rw [(h c hc).symbols]
  exact .atom c

mutual

/-- A step appends what it means, or both are nothing. -/
theorem means_step (step : Step) (hfree : step.clearFree = true)
    (hatoms : ∀ c ∈ step.emitted, K.IsAtom c) :
    Option.Rel (Entry.Means K truth) step.appended? (step.member? truth) := by
  cases step with
  | condition guard c negate useOr =>
    rw [appended?, member?]
    rw [emitted] at hatoms
    split
    · next hg =>
      cases hc : WhereClause.nonBlank c with
      | none => exact .none
      | some c =>
        have hatom : K.IsAtom c := hatoms c (by simp [hg, hc])
        refine .some ⟨rfl, rfl, .atom c, ?_, rfl⟩
        rw [hatom.symbols]
        exact .atom c
    · exact .none
  | group guard cs negate useOr innerOr =>
    rw [appended?, member?]
    rw [emitted] at hatoms
    by_cases hg : guard.isMet = true
    · rw [if_pos hg] at hatoms ⊢
      cases hcs : cs.filterMap WhereClause.nonBlank with
      | nil => simp
      | cons c cs' =>
        rw [hcs] at hatoms
        have hconditions : List.Forall₂ (Entry.Means K truth) _ _ :=
          means_conditions hatoms innerOr
        obtain ⟨f, hf, hv⟩ := parses_parenthesized hconditions (by simp)
        rw [if_pos ⟨hg, by simp⟩]
        refine .some ⟨rfl, rfl, f, ?_, ?_⟩
        · rwa [toList_groupBody]
        · rw [hv, levelValue_map truth innerOr (by simp)]
    · simp [hg]
  | nested guard steps negate useOr =>
    rw [clearFree] at hfree
    rw [appended?_nested hfree, member?]
    rw [emitted] at hatoms
    by_cases hg : guard.isMet = true
    · rw [if_pos hg] at hatoms ⊢
      have hsteps := means_steps steps hfree hatoms
      cases hms : members truth steps with
      | nil =>
        rw [hms, List.forall₂_nil_right_iff] at hsteps
        rw [if_neg fun h => h.2 hsteps]
        exact .none
      | cons m ms =>
        rw [hms] at hsteps
        have hne : steps.filterMap appended? ≠ [] := by
          intro hnil
          rw [hnil] at hsteps
          cases hsteps
        obtain ⟨f, hf, hv⟩ := parses_parenthesized hsteps hne
        rw [if_pos ⟨hg, hne⟩]
        refine .some ⟨rfl, rfl, f, ?_, hv⟩
        rwa [toList_parenthesized_body hfree]
    · simp [hg]
  | clear => cases hfree

theorem means_steps (steps : List Step) (hfree : allClearFree steps = true)
    (hatoms : ∀ c ∈ allEmitted steps, K.IsAtom c) :
    List.Forall₂ (Entry.Means K truth) (steps.filterMap appended?) (members truth steps) := by
  cases steps with
  | nil => exact .nil
  | cons step rest =>
    rw [allClearFree, Bool.and_eq_true] at hfree
    rw [allEmitted] at hatoms
    have hstep := means_step step hfree.1 fun c hc => hatoms c (List.mem_append_left _ hc)
    have hrest := means_steps rest hfree.2 fun c hc => hatoms c (List.mem_append_right _ hc)
    rw [members, List.filterMap_cons]
    generalize step.appended? = e, step.member? truth = m at hstep
    cases hstep with
    | none => exact hrest
    | some h => exact .cons h hrest

end

end Step

end SqlAccess

import SqlAccess.Command.Statement
import SqlAccess.Proofs.SqlText.Numbering
import SqlAccess.Proofs.SqlText.Span

/-!
# Logged and sent text

Both the text for logs and the statement of a text command put something in the place of
placeholders: the logs a literal, the statement a reference. They do so at the same placeholders,
but of several parameters of one name the logs take the first and the statement the last. So the
logs show what is sent exactly if, for every placeholder, these two have the same literal
(`displaySql_shows_sent_iff`).
-/

namespace SqlAccess

theorem exists_lexeme_of_mem_placeholdersFrom {marker : Char} {start : Nat} {ls : List Lexeme}
    {name : String} (h : name ∈ (placeholdersFrom marker start ls).map (·.name)) :
    .placeholder name.toList ∈ ls := by
  obtain ⟨p, hp, rfl⟩ := List.mem_map.1 h
  obtain ⟨pre, post, rfl, -⟩ := exists_of_mem_placeholdersFrom hp
  exact List.mem_append_right _ List.mem_cons_self

/-! ## The last parameter of a name -/

/-- The last position of a name leads to the last element of that name. -/
theorem getElem?_of_lastIdxOf? {α β : Type} [DecidableEq β] {f : α → β} {b : β} {l : List α}
    {i : Nat} (h : lastIdxOf? b (l.map f) = some i) :
    l[i]? = (l.filter (f · == b)).getLast? := by
  induction l generalizing i with
  | nil => simp [lastIdxOf?] at h
  | cons x l ih =>
    simp only [List.map_cons, lastIdxOf?] at h
    cases hl : lastIdxOf? b (l.map f) with
    | some k =>
      rw [hl] at h
      obtain rfl : k + 1 = i := Option.some.inj h
      have hne : l.filter (f · == b) ≠ [] := by
        intro hnil
        have hmem : b ∈ l.map f := lastIdxOf?_isSome_iff.1 (by simp [hl])
        obtain ⟨y, hy, hyb⟩ := List.mem_map.1 hmem
        exact List.filter_eq_nil_iff.1 hnil y hy (by simpa using hyb)
      rw [List.getElem?_cons_succ, ih hl]
      by_cases hx : f x = b
      · rw [List.filter_cons_of_pos (by simpa using hx), List.getLast?_cons_of_ne_nil hne]
      · rw [List.filter_cons_of_neg (by simpa using hx)]
    | none =>
      rw [hl] at h
      by_cases hx : f x = b
      · obtain rfl : 0 = i := by simpa [hx] using h
        have hnil : l.filter (f · == b) = [] := by
          refine List.filter_eq_nil_iff.2 fun y hy hyb => ?_
          exact lastIdxOf?_eq_none_iff.1 hl (List.mem_map.2 ⟨y, hy, by simpa using hyb⟩)
        simp [hx, hnil]
      · simp [hx] at h

/-- A filter that drops nothing keeps positions. -/
theorem getElem?_filterMap_of_isSome {α β : Type} {f : α → Option β} {l : List α}
    (h : ∀ a ∈ l, (f a).isSome) (k : Nat) : (l.filterMap f)[k]? = l[k]?.bind f := by
  induction l generalizing k with
  | nil => simp
  | cons a l ih =>
    obtain ⟨b, hb⟩ := Option.isSome_iff_exists.1 (h a List.mem_cons_self)
    rw [List.filterMap_cons_some hb]
    cases k with
    | zero => simp [hb]
    | succ k => simpa using ih (fun x hx => h x (List.mem_cons_of_mem a hx)) k

namespace Command

/-- The names of the placeholders in the text, in text order. -/
def placeholderNames (c : Command) : List String :=
  (scan c.text c.marker).map (·.name)

/-- The parameters called `name`, marker dropped. -/
def called (c : Command) (name : String) : List Parameter :=
  c.parameters.filter fun p => p.logicalName c.marker == name

/-- The position of the parameter that goes with a placeholder called `name` when it is sent. -/
def sentIndex? (c : Command) (name : String) : Option Nat :=
  lastIdxOf? name (c.parameters.map (·.logicalName c.marker))

/-- The positions of the parameters that are sent, in the order of their references. -/
def referenceOrder (c : Command) : List Nat :=
  ((lexemes c.marker c.text.toList).filterMap (·.called? c.sentIndex?)).eraseDups

/-- The place, from zero on, of the reference that a placeholder called `name` becomes. -/
def reference? (c : Command) (name : String) : Option Nat :=
  (c.sentIndex? name).map c.referenceOrder.idxOf

/-- The literal that logs show for a placeholder called `name`. -/
def shown? (c : Command) (name : String) : Option String :=
  (c.displayed? name).map (·.value.literal)

variable {c : Command}

theorem statement_text (hk : c.kind = .text) :
    c.statement = .ok ⟨substitute c.text c.marker fun name =>
      (c.reference? name).map fun k => referenceText (k + 1), c.referenceOrder⟩ := by
  have hnames : c.parameterNames.map (logicalName c.marker) =
      c.parameters.map (·.logicalName c.marker) := by
    simp [parameterNames, Parameter.logicalName, Function.comp_def]
  have h := toPositional_eq c.text c.marker c.parameterNames
  rw [hnames] at h
  simp only [statement, hk, reference?, Option.map_map]
  exact congrArg Except.ok h

theorem displaySql_text (hk : c.kind = .text) :
    c.displaySql = substitute c.text c.marker c.shown? := by
  simp only [displaySql, hk]
  rfl

theorem displayed?_eq (name : String) : c.displayed? name = (c.called name).head? := by
  rw [called, List.head?_filter]
  rfl

theorem getElem?_sentIndex? {name : String} {i : Nat} (h : c.sentIndex? name = some i) :
    c.parameters[i]? = (c.called name).getLast? :=
  getElem?_of_lastIdxOf? h

theorem sentIndex?_isSome (name : String) : (c.sentIndex? name).isSome ↔ c.called name ≠ [] := by
  rw [sentIndex?, lastIdxOf?_isSome_iff]
  simp [called, List.filter_eq_nil_iff]

theorem shown?_isSome (name : String) : (c.shown? name).isSome ↔ (c.reference? name).isSome := by
  rw [shown?, reference?, Option.isSome_map, Option.isSome_map, sentIndex?_isSome, displayed?_eq]
  cases c.called name <;> simp

/-- Every position in the order is that of a parameter. -/
theorem lt_length_of_mem_referenceOrder {i : Nat} (h : i ∈ c.referenceOrder) :
    i < c.parameters.length := by
  obtain ⟨l, -, hl⟩ := List.mem_filterMap.1 (List.mem_eraseDups.1 h)
  cases l with
  | placeholder name =>
    have hi := (lastIdxOf?_eq_some_iff.1 hl).1
    obtain ⟨hlt, -⟩ := List.getElem?_eq_some_iff.1 hi
    simpa using hlt
  | plain c => cases hl
  | region kind text => cases hl

/-- The parameter that is sent for reference `k`, counted from zero. -/
def sentParameter? (c : Command) (p : Positional) (k : Nat) : Option Parameter :=
  p.order[k]?.bind fun i => c.parameters[i]?

theorem getElem?_sentValues {p : Positional} (h : ∀ i ∈ p.order, i < c.parameters.length)
    (k : Nat) : (c.sentValues p)[k]? = (c.sentParameter? p k).map (·.value) := by
  have hsome : ∀ i ∈ p.order, (c.parameters[i]?.map (·.value)).isSome := by
    intro i hi
    simp [h i hi]
  rw [sentValues, getElem?_filterMap_of_isSome hsome, sentParameter?, Option.map_bind]
  rfl

/-- The parameter sent for a reference is the last one of the placeholder's name. -/
theorem sentParameter?_reference {sql name : String} {k : Nat} (hn : name ∈ c.placeholderNames)
    (hk : c.reference? name = some k) :
    c.sentParameter? ⟨sql, c.referenceOrder⟩ k = (c.called name).getLast? := by
  obtain ⟨i, hi, rfl⟩ := Option.map_eq_some_iff.1 hk
  have hmem : i ∈ c.referenceOrder := by
    have hl := exists_lexeme_of_mem_placeholdersFrom hn
    refine List.mem_eraseDups.2 (List.mem_filterMap.2 ⟨_, hl, ?_⟩)
    simpa [Lexeme.called?] using hi
  rw [sentParameter?, List.getElem?_idxOf hmem, Option.bind_some, getElem?_sentIndex? hi]

/-- The text for logs has a literal exactly where the statement has a reference, and they are
literals of what is sent exactly if of every placeholder's name the first and the last parameter
have the same literal. -/
theorem displaySql_shows_sent_iff (hk : c.kind = .text) :
    ∃ p, c.statement = .ok p ∧
      p.sql = substitute c.text c.marker (fun name =>
        (c.reference? name).map fun k => referenceText (k + 1)) ∧
      c.displaySql = substitute c.text c.marker c.shown? ∧
      (∀ name ∈ c.placeholderNames, (c.shown? name).isSome ↔ (c.reference? name).isSome) ∧
      ((∀ name ∈ c.placeholderNames, ∀ k, c.reference? name = some k →
          ∃ q, c.sentParameter? p k = some q ∧ (c.sentValues p)[k]? = some q.value ∧
            c.shown? name = some q.value.literal) ↔
        ∀ name ∈ c.placeholderNames, (c.called name).head?.map (·.value.literal) =
          (c.called name).getLast?.map (·.value.literal)) := by
  refine ⟨_, statement_text hk, rfl, displaySql_text hk, fun name _ => shown?_isSome name, ?_⟩
  refine forall₂_congr fun name hn => ?_
  rw [← displayed?_eq, ← shown?]
  constructor
  · intro h
    cases hr : c.reference? name with
    | some k =>
      obtain ⟨q, hq, -, hshown⟩ := h k hr
      rw [sentParameter?_reference hn hr] at hq
      rw [hshown, hq, Option.map_some]
    | none =>
      -- then no parameter has the name
      have hcalled : c.called name = [] := by
        by_contra hne
        have := (shown?_isSome name).1 (by simpa [shown?, displayed?_eq] using hne)
        simp [hr] at this
      simp [shown?, displayed?_eq, hcalled]
  · intro h k hr
    have hsome := (shown?_isSome name).2 (by rw [hr]; rfl)
    rw [h, Option.isSome_map] at hsome
    obtain ⟨q, hq⟩ := Option.isSome_iff_exists.1 hsome
    refine ⟨q, (sentParameter?_reference hn hr).trans hq, ?_, by rw [h, hq, Option.map_some]⟩
    rw [getElem?_sentValues fun i => lt_length_of_mem_referenceOrder,
      sentParameter?_reference hn hr, hq, Option.map_some]

theorem displaySql_shows_sent_repeated :
    let c := { ofText "SELECT @a, @b, @a, '@a', @c" with
      parameters := [.input "@b" (.int32 2), .input "a" (.int32 1), .input "@d" .null] }
    c.kind = .text ∧ c.displaySql = "SELECT 1, 2, 1, '@a', @c" ∧
      ∃ p, c.statement = .ok p ∧ p.sql = "SELECT $1, $2, $1, '@a', @c" ∧
        ∃ q, c.sentParameter? p 0 = some q ∧ (c.sentValues p)[0]? = some q.value ∧
          q.value.literal = "1" := by
  intro c
  obtain ⟨p, hp, hsql, -, -, hiff⟩ := displaySql_shows_sent_iff (c := c) rfl
  obtain ⟨q, hq, hv, hl⟩ := hiff.2 (by decide +kernel) "a" (by decide +kernel) 0 (by decide +kernel)
  refine ⟨rfl, by decide +kernel, p, hp, hsql.trans (by decide +kernel), q, hq, hv, ?_⟩
  exact Option.some.inj (hl.symm.trans (by decide +kernel))

/-- Of two parameters of one name the logs show the first, and the second is sent. -/
theorem displaySql_name_bound_twice :
    let c := { ofText "SELECT @a" with
      parameters := [.input "@a" (.int32 1), .input "@a" (.int32 2)] }
    c.displaySql = "SELECT 1" ∧
      c.statement.toOption.map (fun p => (p.sql, (c.sentValues p).map Value.literal)) =
        some ("SELECT $1", ["2"]) := by
  decide +kernel

end Command

end SqlAccess

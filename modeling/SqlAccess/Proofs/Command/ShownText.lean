import SqlAccess.Proofs.Command.Display
import SqlAccess.Proofs.SqlText.QuotedAnswer

/-!
# Texts in logs

The literal of a text is the text between quotes with its own quotes doubled, and is read back as
the text (`readQuoted?_eq_some_iff`). So the logged form of a command that has texts only is a
rendering with quoted answers: a second reading finds the placeholders that have no parameter, and
no text can hide one of them or put another there (`Command.scan_displaySql`).
-/

namespace SqlAccess

/-! ## Reading a literal -/

/-- The text up to a single quote that ends `s`, with doubled quotes made single; nothing if there
is another single quote, or none. -/
def undoubled? : List Char → Option (List Char)
  | [] => none
  | '\'' :: '\'' :: rest => (undoubled? rest).map ('\'' :: ·)
  | c :: rest =>
    if c = '\'' then if rest = [] then some [] else none
    else (undoubled? rest).map (c :: ·)

/-- The text that a quoted string stands for; nothing if `s` is not one from end to end. -/
def readQuoted? : List Char → Option (List Char)
  | '\'' :: s => undoubled? s
  | _ => none

theorem undoubled?_doubled (s : List Char) : undoubled? (doubled '\'' s ++ ['\'']) = some s := by
  induction s with
  | nil => rfl
  | cons c s ih =>
    by_cases hc : c = '\''
    · subst hc
      show undoubled? ('\'' :: '\'' :: (doubled '\'' s ++ ['\''])) = _
      rw [undoubled?, ih]
      rfl
    · have hcons : doubled '\'' (c :: s) = c :: doubled '\'' s := by simp [doubled, hc]
      rw [hcons, List.cons_append, undoubled?, if_neg hc, ih]
      · rfl
      · intro rest hrest
        exact absurd hrest hc

theorem eq_doubled_of_undoubled? {t s : List Char} (h : undoubled? t = some s) :
    t = doubled '\'' s ++ ['\''] := by
  fun_induction undoubled? t generalizing s with
  | case1 => cases h
  | case2 rest ih =>
    obtain ⟨s, hs, rfl⟩ := Option.map_eq_some_iff.1 h
    rw [ih hs]
    rfl
  | case3 =>
    cases h
    rfl
  | case4 => cases h
  | case5 c rest hpair hc ih =>
    obtain ⟨s, hs, rfl⟩ := Option.map_eq_some_iff.1 h
    rw [ih hs]
    simp [doubled, hc]

/-- What is read as a quoted string is the text between quotes with its own quotes doubled. -/
theorem readQuoted?_eq_some_iff {t s : List Char} :
    readQuoted? t = some s ↔ t = quotedText '\'' s := by
  constructor
  · intro h
    unfold readQuoted? at h
    split at h
    · rw [eq_doubled_of_undoubled? h]
      rfl
    · cases h
  · rintro rfl
    exact undoubled?_doubled s

theorem toList_literal_text (s : String) :
    (Value.text s).literal.toList = quotedText '\'' s.toList := by
  simp [Value.literal, Value.quoted, Value.doubleQuotes, quotedText, doubled]

/-! ## Commands that have texts only -/

namespace Command

variable {c : Command}

theorem answersQuoted_shown? (h : ∀ p ∈ c.parameters, ∃ s, p.value = .text s) :
    AnswersQuoted c.shown? := by
  intro name answer hanswer
  obtain ⟨p, hp, rfl⟩ := Option.map_eq_some_iff.1 hanswer
  obtain ⟨s, hs⟩ := h p (List.mem_of_find?_eq_some hp)
  exact ⟨s.toList, by rw [hs, toList_literal_text]⟩

theorem shown?_isNone (name : String) : (c.shown? name).isNone = (c.called name).isEmpty := by
  rw [shown?, displayed?_eq, Option.isNone_map]
  cases c.called name <;> rfl

/-- Let every placeholder of a text command be set off, and let all parameters be texts. Then the
text for logs has, in the place of each placeholder that has a parameter, a quoted string that is
read as the text of that parameter; and the placeholders that are found in the text for logs are
those that have no parameter, in their order and where rendering puts them. -/
theorem scan_displaySql (hk : c.kind = .text) (hm : IsLogMarker c.marker)
    (hoff : SetOff c.marker (lexemes c.marker c.text.toList))
    (htexts : ∀ p ∈ c.parameters, ∃ s, p.value = .text s) :
    c.displaySql = substitute c.text c.marker c.shown? ∧
      (∀ name ∈ c.placeholderNames, ∀ p, c.displayed? name = some p →
        ∃ s answer, p.value = .text s ∧ c.shown? name = some answer ∧
          readQuoted? answer.toList = some s.toList) ∧
      scan c.displaySql c.marker =
        unansweredFrom c.marker c.shown? 0 (lexemes c.marker c.text.toList) ∧
      (scan c.displaySql c.marker).map (·.name) =
        c.placeholderNames.filter fun name => (c.called name).isEmpty := by
  have hscan : scan c.displaySql c.marker =
      unansweredFrom c.marker c.shown? 0 (lexemes c.marker c.text.toList) := by
    rw [displaySql_text hk, scan_substitute hm (answersQuoted_shown? htexts) hoff]
  refine ⟨displaySql_text hk, fun name _ p hp => ?_, hscan, ?_⟩
  · obtain ⟨s, hs⟩ := htexts p (List.mem_of_find?_eq_some hp)
    refine ⟨s, p.value.literal, hs, by rw [shown?, hp, Option.map_some], ?_⟩
    rw [hs, readQuoted?_eq_some_iff, toList_literal_text]
  · rw [hscan, map_name_unansweredFrom, placeholderNames, map_name_scan]
    exact List.filter_congr fun name _ => shown?_isNone name

theorem scan_displaySql_hostile_texts :
    let c := { ofText "SELECT @a, @b /* @c */, f(@a) -- it's\n, @d" with
      parameters := [.input "@a" (.text "'; -- @d /* ''"), .input "c" (.text "@b")] }
    c.kind = .text ∧ IsLogMarker c.marker ∧ SetOff c.marker (lexemes c.marker c.text.toList) ∧
      (∀ p ∈ c.parameters, ∃ s, p.value = .text s) ∧
      c.displaySql =
        "SELECT '''; -- @d /* ''''', @b /* @c */, f('''; -- @d /* ''''') -- it's\n, @d" ∧
      (scan c.displaySql c.marker).map (·.name) = ["b", "d"] := by
  intro c
  have hm : IsLogMarker c.marker :=
    ⟨⟨by decide, by decide, by decide, by decide⟩, by decide, by decide, by decide⟩
  have hoff : SetOff c.marker (lexemes c.marker c.text.toList) := by decide +kernel
  have htexts : ∀ p ∈ c.parameters, ∃ s, p.value = .text s := by
    simp [c, Parameter.input]
  obtain ⟨-, -, -, hnames⟩ := scan_displaySql rfl hm hoff htexts
  exact ⟨rfl, hm, hoff, htexts, by decide +kernel, hnames.trans (by decide +kernel)⟩

end Command

end SqlAccess

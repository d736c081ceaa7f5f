import Mathlib.Data.Set.List
import SqlAccess.Command.Procedure

/-!
# Names of procedures

A qualified name is a list of identifiers between points, and an identifier is plain or in double
quotes, where anything may stand, a quote being written twice (`Identifier`, `QualifiedName`). Such
a name has one reading only (`QualifiedName.text_injective`). What `isIdentifier` takes are the
identifiers (`isIdentifier_iff`), but a name is split at all of its points before its quotes are
looked at, so it is accepted exactly if none of its identifiers has a point inside of its quotes
(`checkProcedureName_iff_undotted`).
-/

namespace SqlAccess

/-! ## Identifiers -/

/-- What stands between double quotes: a character other than a double quote, or a doubled one. -/
inductive QuotedItem
  | char (c : Char) (ne_quote : c ≠ '"')
  | quote

def QuotedItem.text : QuotedItem → List Char
  | char c _ => [c]
  | quote => ['"', '"']

/-- A plain identifier, of ASCII characters only, or one in double quotes that holds an item at
least. -/
inductive Identifier
  | plain (first : Char) (rest : List Char) (first_ok : (first.isAlpha || first == '_') = true)
      (rest_ok : ∀ c ∈ rest, (c.isAlphanum || c == '_' || c == '$') = true)
  | quoted (items : List QuotedItem) (ne_nil : items ≠ [])

namespace Identifier

def text : Identifier → List Char
  | plain first rest _ _ => first :: rest
  | quoted items _ => '"' :: items.flatMap QuotedItem.text ++ ['"']

end Identifier

theorem quotesPaired_iff {s : List Char} :
    quotesPaired s = true ↔ ∃ items : List QuotedItem, items.flatMap QuotedItem.text = s := by
  constructor
  · intro h
    induction s using quotesPaired.induct with
    | case1 => exact ⟨[], rfl⟩
    | case2 rest ih =>
      obtain ⟨items, hitems⟩ := ih h
      exact ⟨.quote :: items, by rw [List.flatMap_cons, hitems]; rfl⟩
    | case3 c rest hpair ih =>
      rw [quotesPaired] at h
      · obtain ⟨hc, hrest⟩ := Bool.and_eq_true_iff.1 h
        obtain ⟨items, hitems⟩ := ih hrest
        exact ⟨.char c (by simpa using hc) :: items, by rw [List.flatMap_cons, hitems]; rfl⟩
      · exact hpair
  · rintro ⟨items, rfl⟩
    induction items with
    | nil => rfl
    | cons item items ih =>
      cases item with
      | quote => exact ih
      | char c hc =>
        rw [List.flatMap_cons, QuotedItem.text, List.singleton_append, quotesPaired]
        · simpa [hc] using ih
        · intro rest hpair
          exact absurd hpair hc

theorem ne_quote_of_first {c : Char} (h : (c.isAlpha || c == '_') = true) : c ≠ '"' := by
  rintro rfl
  revert h
  decide

/-- What is taken for an identifier are the identifiers. -/
theorem isIdentifier_iff {part : List Char} :
    isIdentifier part = true ↔ ∃ i : Identifier, i.text = part := by
  constructor
  · intro h
    rw [isIdentifier] at h
    split at h
    · next hq =>
      obtain ⟨hlength, hhead, hlast⟩ := hq
      obtain ⟨front, rfl⟩ := List.getLast?_eq_some_iff.1 hlast
      cases front with
      | nil => simp at hlength
      | cons c inner =>
        obtain rfl : c = '"' := by simpa using hhead
        obtain ⟨hne, hpaired⟩ : inner ≠ [] ∧ quotesPaired inner = true := by simpa using h
        obtain ⟨items, rfl⟩ := quotesPaired_iff.1 hpaired
        exact ⟨.quoted items (by rintro rfl; exact hne rfl), rfl⟩
    · cases part with
      | nil => cases h
      | cons c rest =>
        obtain ⟨hc, hrest⟩ := Bool.and_eq_true_iff.1 h
        exact ⟨.plain c rest hc (List.all_eq_true.1 hrest), rfl⟩
  · rintro ⟨i, rfl⟩
    cases i with
    | plain first rest hfirst hrest =>
      have hne := ne_quote_of_first hfirst
      rw [isIdentifier, Identifier.text, if_neg (by simp [hne]), isPlainIdentifier, hfirst,
        Bool.true_and]
      exact List.all_eq_true.2 hrest
    | quoted items hne =>
      have hinner : items.flatMap QuotedItem.text ≠ [] := by
        obtain ⟨item, items, rfl⟩ := List.exists_cons_of_ne_nil hne
        cases item <;> simp [QuotedItem.text]
      have hpaired := quotesPaired_iff.2 ⟨items, rfl⟩
      have hlast : (Identifier.quoted items hne).text.getLast? = some '"' :=
        List.getLast?_concat
      rw [isIdentifier, if_pos ⟨by simp [Identifier.text], rfl, hlast⟩]
      simp [Identifier.text, hinner, hpaired]

/-! ## Qualified names -/

/-- One identifier or more, with points between them. -/
structure QualifiedName where
  parts : List Identifier
  ne_nil : parts ≠ []

def QualifiedName.text (q : QualifiedName) : List Char :=
  ['.'].intercalate (q.parts.map Identifier.text)

/-- Between quotes, items are read in one way: the text ends at the first quote that is not
doubled. -/
theorem quotedItems_inj {items items' : List QuotedItem} {s s' : List Char}
    (h : items.flatMap QuotedItem.text ++ '"' :: s = items'.flatMap QuotedItem.text ++ '"' :: s')
    (hs : s.head? ≠ some '"') (hs' : s'.head? ≠ some '"') : items = items' ∧ s = s' := by
  induction items generalizing items' with
  | nil =>
    cases items' with
    | nil => exact ⟨rfl, List.tail_eq_of_cons_eq h⟩
    | cons item' items' =>
      cases item' with
      | char c' hc' => exact absurd (List.head_eq_of_cons_eq h).symm hc'
      | quote => exact absurd (congrArg List.head? (List.tail_eq_of_cons_eq h)) hs
  | cons item items ih =>
    cases items' with
    | nil =>
      cases item with
      | char c hc => exact absurd (List.head_eq_of_cons_eq h) hc
      | quote => exact absurd (congrArg List.head? (List.tail_eq_of_cons_eq h)).symm hs'
    | cons item' items' =>
      cases item with
      | char c hc =>
        cases item' with
        | char c' hc' =>
          obtain rfl : c = c' := List.head_eq_of_cons_eq h
          obtain ⟨rfl, hrest⟩ := ih (List.tail_eq_of_cons_eq h)
          exact ⟨rfl, hrest⟩
        | quote => exact absurd (List.head_eq_of_cons_eq h) hc
      | quote =>
        cases item' with
        | char c' hc' => exact absurd (List.head_eq_of_cons_eq h).symm hc'
        | quote =>
          obtain ⟨rfl, hrest⟩ := ih (List.tail_eq_of_cons_eq (List.tail_eq_of_cons_eq h))
          exact ⟨rfl, hrest⟩

/-- A text in front of which an identifier ends: it is empty or begins with a point. -/
def EndsIdentifier (s : List Char) : Prop := ∀ c ∈ s.head?, c = '.'

theorem EndsIdentifier.head?_ne {s : List Char} (h : EndsIdentifier s) : s.head? ≠ some '"' := by
  intro hc
  exact absurd (h _ hc) (by decide)

/-- In front of such a text, characters other than points are read in one way. -/
theorem pointless_inj {w w' s s' : List Char} (h : w ++ s = w' ++ s') (hw : '.' ∉ w)
    (hw' : '.' ∉ w') (hs : EndsIdentifier s) (hs' : EndsIdentifier s') : w = w' ∧ s = s' := by
  induction w generalizing w' with
  | nil =>
    cases w' with
    | nil => exact ⟨rfl, h⟩
    | cons c w' =>
      obtain rfl : c = '.' := hs c (by rw [← List.nil_append s, h]; rfl)
      exact absurd List.mem_cons_self hw'
  | cons c w ih =>
    cases w' with
    | nil =>
      obtain rfl : c = '.' := hs' c (by rw [← List.nil_append s', ← h]; rfl)
      exact absurd List.mem_cons_self hw
    | cons c' w' =>
      obtain ⟨rfl, hrest⟩ := List.cons.inj h
      obtain ⟨rfl, hs⟩ :=
        ih hrest (mt (List.mem_cons_of_mem c) hw) (mt (List.mem_cons_of_mem c) hw')
      exact ⟨rfl, hs⟩

namespace Identifier

theorem point_notMem_plain {first : Char} {rest : List Char}
    (hfirst : (first.isAlpha || first == '_') = true)
    (hrest : ∀ c ∈ rest, (c.isAlphanum || c == '_' || c == '$') = true) :
    '.' ∉ first :: rest := by
  rintro (_ | ⟨_, h⟩)
  · revert hfirst
    decide
  · exact absurd (hrest _ h) (by decide)

theorem append_inj {i i' : Identifier} {s s' : List Char} (h : i.text ++ s = i'.text ++ s')
    (hs : EndsIdentifier s) (hs' : EndsIdentifier s') : i = i' ∧ s = s' := by
  cases i with
  | plain first rest hfirst hrest =>
    cases i' with
    | plain first' rest' hfirst' hrest' =>
      obtain ⟨htext, rfl⟩ := pointless_inj h (point_notMem_plain hfirst hrest)
        (point_notMem_plain hfirst' hrest') hs hs'
      obtain ⟨rfl, rfl⟩ := List.cons.inj htext
      exact ⟨rfl, rfl⟩
    | quoted items' hne' => exact absurd (List.head_eq_of_cons_eq h) (ne_quote_of_first hfirst)
  | quoted items hne =>
    cases i' with
    | plain first' rest' hfirst' hrest' =>
      exact absurd (List.head_eq_of_cons_eq h).symm (ne_quote_of_first hfirst')
    | quoted items' hne' =>
      have hinner : items.flatMap QuotedItem.text ++ '"' :: s =
          items'.flatMap QuotedItem.text ++ '"' :: s' := by
        simpa [text] using h
      obtain ⟨rfl, rfl⟩ := quotedItems_inj hinner hs.head?_ne hs'.head?_ne
      exact ⟨rfl, rfl⟩

end Identifier

/-- The text of identifiers that follow others. -/
def furtherText (parts : List Identifier) : List Char :=
  (parts.map Identifier.text).flatMap (['.'] ++ ·)

theorem endsIdentifier_furtherText (parts : List Identifier) :
    EndsIdentifier (furtherText parts) := by
  intro c hc
  cases parts with
  | nil => cases hc
  | cons part parts => exact (Option.some.inj hc).symm

theorem furtherText_injective : Function.Injective furtherText := by
  intro parts
  induction parts with
  | nil =>
    intro parts' h
    cases parts' with
    | nil => rfl
    | cons part' parts' => cases h
  | cons part parts ih =>
    intro parts' h
    cases parts' with
    | nil => cases h
    | cons part' parts' =>
      have h : part.text ++ furtherText parts = part'.text ++ furtherText parts' :=
        List.tail_eq_of_cons_eq h
      obtain ⟨rfl, hrest⟩ := Identifier.append_inj h (endsIdentifier_furtherText parts)
        (endsIdentifier_furtherText parts')
      rw [ih hrest]

namespace QualifiedName

/-- A qualified name has one reading. -/
theorem text_injective : Function.Injective text := by
  rintro ⟨_ | ⟨part, parts⟩, hne⟩ ⟨_ | ⟨part', parts'⟩, hne'⟩ h
  · rfl
  · exact absurd rfl hne
  · exact absurd rfl hne'
  · simp only [text, List.map_cons, Text.intercalate_cons_flatMap] at h
    obtain ⟨rfl, hrest⟩ := Identifier.append_inj h (endsIdentifier_furtherText parts)
      (endsIdentifier_furtherText parts')
    obtain rfl := furtherText_injective hrest
    rfl

end QualifiedName

/-- A name is split at its points first, so its identifiers are found if none has a point. -/
theorem isProcedureName_iff {name : String} :
    isProcedureName name = true ↔
      ∃ q : QualifiedName, q.text = name.toList ∧ ∀ i ∈ q.parts, '.' ∉ i.text := by
  rw [isProcedureName, List.all_eq_true]
  constructor
  · intro h
    obtain ⟨parts, hparts⟩ : Text.splitAtEach '.' name.toList ∈
        Set.range (List.map Identifier.text) := by
      rw [Set.range_list_map]
      exact fun part hpart => isIdentifier_iff.1 (h part hpart)
    have hne : parts ≠ [] := by
      rintro rfl
      exact Text.splitAtEach_ne_nil '.' name.toList hparts.symm
    refine ⟨⟨parts, hne⟩, ?_, fun i hi => ?_⟩
    · rw [QualifiedName.text, hparts, Text.intercalate_splitAtEach]
    · exact Text.notMem_of_mem_splitAtEach (hparts ▸ List.mem_map_of_mem hi)
  · rintro ⟨q, hq, hpoints⟩ part hpart
    rw [← hq, QualifiedName.text, Text.splitAtEach_intercalate] at hpart
    · obtain ⟨i, -, rfl⟩ := List.mem_map.1 hpart
      exact isIdentifier_iff.2 ⟨i, rfl⟩
    · simpa using q.ne_nil
    · simpa using hpoints

/-- The name of a procedure is accepted exactly if it is a qualified name none of whose identifiers
has a point. So that exactly the qualified names are accepted holds of a name exactly if, being
one, it has no point between quotes. -/
theorem checkProcedureName_iff_undotted (name : String) :
    (checkProcedureName name = .ok () ↔
      ∃ q : QualifiedName, q.text = name.toList ∧ ∀ i ∈ q.parts, '.' ∉ i.text) ∧
    ((checkProcedureName name = .ok () ↔ ∃ q : QualifiedName, q.text = name.toList) ↔
      ∀ q : QualifiedName, q.text = name.toList → ∀ i ∈ q.parts, '.' ∉ i.text) := by
  have haccepted : checkProcedureName name = .ok () ↔
      ∃ q : QualifiedName, q.text = name.toList ∧ ∀ i ∈ q.parts, '.' ∉ i.text := by
    rw [← isProcedureName_iff, checkProcedureName]
    split
    · next h => simp [h]
    · next h => simp [h]
  refine ⟨haccepted, ?_⟩
  rw [haccepted]
  constructor
  · intro h q hq
    obtain ⟨q', hq', hpoints⟩ := h.2 ⟨q, hq⟩
    obtain rfl := QualifiedName.text_injective (hq'.trans hq.symm)
    exact hpoints
  · intro h
    exact ⟨fun ⟨q, hq, _⟩ => ⟨q, hq⟩, fun ⟨q, hq⟩ => ⟨q, hq, h q hq⟩⟩

/-- A quoted identifier with a point is one for an argument, but no name of a procedure. -/
theorem checkProcedureName_point_in_quotes :
    (∃ q : QualifiedName, q.text = "\"a.b\"".toList) ∧
      checkProcedureName "\"a.b\"" = .error (.invalidProcedureName "\"a.b\"") ∧
      isIdentifier "\"a.b\"".toList = true :=
  ⟨⟨⟨[.quoted [.char 'a' (by decide), .char '.' (by decide), .char 'b' (by decide)] (by simp)],
    by simp⟩, rfl⟩, rfl, rfl⟩

end SqlAccess

import Mathlib.Data.List.Chain
import SqlAccess.Proofs.SqlText.Locality
import SqlAccess.SqlText.Rewrite

/-!
# Replacing a placeholder

Lexemes that stand for a placeholder (`StandsFor`) are read wherever the placeholder is. So where
no placeholder comes directly behind a dollar sign or directly before a quote (`Separated`),
replacing one in the text is replacing it among the lexemes, and what is around it stays as it is
(`lexemes_replaceFirst`).
-/

namespace SqlAccess

variable {marker : Char} {ctx : Context} {name : List Char} {ins ls pre post : List Lexeme}

namespace Lexeme

def isPlaceholder : Lexeme → Bool
  | placeholder _ => true
  | _ => false

/-- Two neighbours of which neither is a placeholder that touches a dollar sign in front of it or
a quote behind it. -/
def Apart (marker : Char) (l l' : Lexeme) : Prop :=
  (l'.isPlaceholder = true → (l.text marker).getLast? ≠ some '$') ∧
    (l.isPlaceholder = true → (l'.text marker).head? ≠ some '\'')

instance (marker : Char) : DecidableRel (Apart marker) := fun _ _ =>
  inferInstanceAs (Decidable (_ ∧ _))

theorem apart_plain (marker c d : Char) : Apart marker (.plain c) (.plain d) := by
  constructor
  · intro h
    cases h
  · intro h
    cases h

end Lexeme

/-- No placeholder comes directly behind a dollar sign or directly before a quote. -/
def Separated (marker : Char) (ls : List Lexeme) : Prop :=
  ls.IsChain (Lexeme.Apart marker)

instance (marker : Char) (ls : List Lexeme) : Decidable (Separated marker ls) :=
  inferInstanceAs (Decidable (ls.IsChain _))

/-- `ins` can be read wherever a placeholder called `name` is. -/
structure StandsFor (marker : Char) (name : List Char) (ins : List Lexeme) : Prop where
  reads : ∀ ctx u, Fits marker ctx (.placeholder name) u → Reads marker ctx ins u
  inWord : ∀ ctx, (Context.behind marker ctx ins).inWord = true
  head : ∃ c, (textOf marker ins).head? = some c ∧ (c = marker ∨ isWordChar c = true)
  last : ∀ l, ins.getLast? = some l → (l.text marker).getLast? ≠ some '$'
  separated : Separated marker ins

/-! ## In one place -/

theorem StandsFor.ne_nil (hi : StandsFor marker name ins) : ins ≠ [] := by
  rintro rfl
  obtain ⟨c, hc, -⟩ := hi.head
  cases hc

theorem StandsFor.of_head? (hi : StandsFor marker name ins) {u : List Char} {c : Char}
    (hc : (textOf marker ins ++ u).head? = some c) : c = marker ∨ isWordChar c = true := by
  obtain ⟨d, hd, hdm⟩ := hi.head
  rw [List.head?_append, hd] at hc
  obtain rfl : d = c := Option.some.inj hc
  exact hdm

/-- In the place of a placeholder between other characters than a dollar sign and a quote, what
stands for it is read, and all else as before. -/
theorem reads_expand_between (hm : IsMarker marker) (hi : StandsFor marker name ins)
    (h : Reads marker ctx (pre ++ .placeholder name :: post) [])
    (hdollar : ∀ l, pre.getLast? = some l → (l.text marker).getLast? ≠ some '$')
    (hquote : (textOf marker post).head? ≠ some '\'') :
    Reads marker ctx (pre ++ (ins ++ post)) [] := by
  obtain ⟨hpre, hhit, hpost⟩ := reads_append.1 h
  obtain ⟨hctx, hprev, hne, hword, -, -⟩ := (fits_placeholder_iff hm).1 hhit
  refine reads_append.2 ⟨?_, reads_append.2 ⟨hi.reads _ _ hhit, ?_⟩⟩
  · refine hpre.change_next hm rfl hctx hprev hdollar fun c hc => ?_
    rw [textOf_append, List.append_assoc] at hc
    exact hi.of_head? hc
  · exact hpost.congr_inWord (Context.inWord_after_placeholder marker _ hne hword) (hi.inWord _)
      hquote

theorem reads_expand (hm : IsMarker marker) (hi : StandsFor marker name ins)
    (h : Reads marker ctx (pre ++ .placeholder name :: post) [])
    (hs : Separated marker (pre ++ .placeholder name :: post)) :
    Reads marker ctx (pre ++ (ins ++ post)) [] := by
  obtain ⟨-, htail, hjoin⟩ := List.isChain_append.1 hs
  refine reads_expand_between hm hi h (fun l hl => (hjoin l hl _ rfl).1 rfl) ?_
  cases post with
  | nil => simp
  | cons l post =>
    obtain ⟨-, -, ⟨c, t, ht, -⟩, -⟩ := reads_append.1 h
    have hq := (List.isChain_cons_cons.1 htail).1.2 rfl
    rwa [textOf_cons, ht, List.cons_append, List.head?_cons, ← List.head?_cons (l := t), ← ht]

theorem separated_expand (hm : IsMarker marker) (hi : StandsFor marker name ins)
    (hs : Separated marker (pre ++ .placeholder name :: post)) :
    Separated marker (pre ++ (ins ++ post)) := by
  obtain ⟨hpre, htail, hjoin⟩ := List.isChain_append.1 hs
  obtain ⟨hnext, hpost⟩ := List.isChain_cons.1 htail
  refine List.isChain_append.2 ⟨hpre, List.isChain_append.2 ⟨hi.separated, hpost, ?_⟩, ?_⟩
  · intro l hl l' hl'
    exact ⟨fun _ => hi.last l hl, fun _ => (hnext l' hl').2 rfl⟩
  · intro l hl l' hl'
    refine ⟨fun _ => (hjoin l hl _ rfl).1 rfl, fun _ hquote => ?_⟩
    obtain ⟨t, rfl⟩ : ∃ t, ins = l' :: t := by
      rw [List.head?_append_of_ne_nil _ hi.ne_nil] at hl'
      exact List.head?_eq_some_iff.1 hl'
    have hhead : (textOf marker (l' :: t) ++ []).head? = some '\'' := by
      rw [textOf_cons, List.append_assoc, List.head?_append, hquote]
      rfl
    rcases hi.of_head? hhead with hq | hq
    · exact hm.ne_quote hq.symm
    · revert hq
      decide

/-! ## The first of a name -/

/-- `ls` with the first placeholder called `name` replaced. -/
def expandFirst (name : List Char) (ins : List Lexeme) : List Lexeme → List Lexeme
  | [] => []
  | l :: ls => if l = .placeholder name then ins ++ ls else l :: expandFirst name ins ls

theorem expandFirst_of_notMem (h : .placeholder name ∉ ls) : expandFirst name ins ls = ls := by
  induction ls with
  | nil => rfl
  | cons l ls ih =>
    obtain ⟨hl, hls⟩ := not_or.1 (mt List.mem_cons.2 h)
    rw [expandFirst, if_neg (Ne.symm hl), ih hls]

theorem expandFirst_append (h : .placeholder name ∉ pre) (ls : List Lexeme) :
    expandFirst name ins (pre ++ ls) = pre ++ expandFirst name ins ls := by
  induction pre with
  | nil => rfl
  | cons l pre ih =>
    obtain ⟨hl, hpre⟩ := not_or.1 (mt List.mem_cons.2 h)
    rw [List.cons_append, expandFirst, if_neg (Ne.symm hl), ih hpre, List.cons_append]

theorem replaceFirstIn_of_notMem {replacement : List Char} (h : .placeholder name ∉ ls) :
    replaceFirstIn marker name replacement ls = none := by
  induction ls with
  | nil => rfl
  | cons l ls ih =>
    obtain ⟨hl, hls⟩ := not_or.1 (mt List.mem_cons.2 h)
    rw [replaceFirstIn, if_neg (Ne.symm hl), ih hls, Option.map_none]

theorem replaceFirstIn_append (h : .placeholder name ∉ pre) (ins post : List Lexeme) :
    replaceFirstIn marker name (textOf marker ins) (pre ++ .placeholder name :: post) =
      some (textOf marker (pre ++ (ins ++ post))) := by
  induction pre with
  | nil => simp [replaceFirstIn, textOf]
  | cons l pre ih =>
    obtain ⟨hl, hpre⟩ := not_or.1 (mt List.mem_cons.2 h)
    rw [List.cons_append, replaceFirstIn, if_neg (Ne.symm hl), ih hpre]
    rfl

/-- Replacing the first placeholder of a name in a text replaces it among the lexemes. -/
theorem lexemes_replaceFirst (hm : IsMarker marker) {sql name replacement : String}
    (hs : Separated marker (lexemes marker sql.toList))
    (hi : (∀ c ∈ name.toList, isWordChar c = true) → name.toList ≠ [] →
      StandsFor marker name.toList ins)
    (hins : textOf marker ins = replacement.toList) :
    let rewritten := (replaceFirst sql marker (fullName marker name) replacement).getD sql
    lexemes marker rewritten.toList =
        expandFirst name.toList ins (lexemes marker sql.toList) ∧
      Separated marker (lexemes marker rewritten.toList) := by
  intro rewritten
  have hreplace : replaceFirst sql marker (fullName marker name) replacement =
      (replaceFirstIn marker name.toList replacement.toList (lexemes marker sql.toList)).map
        String.ofList := by
    simp [replaceFirst, fullName]
  by_cases hmem : .placeholder name.toList ∈ lexemes marker sql.toList
  · obtain ⟨pre, post, hls, hnot⟩ := List.eq_append_cons_of_mem hmem
    have hread := reads_lexemesFrom marker .start sql.toList
    rw [← lexemes, hls] at hread
    rw [hls] at hs
    obtain ⟨-, hhit, -⟩ := reads_append.1 hread
    obtain ⟨-, -, hne, hw, -, -⟩ := (fits_placeholder_iff hm).1 hhit
    have hi := hi hw hne
    have htext : rewritten.toList = textOf marker (pre ++ (ins ++ post)) := by
      simp only [rewritten, hreplace, hls, ← hins, replaceFirstIn_append hnot]
      simp
    have hlex : lexemes marker rewritten.toList = pre ++ (ins ++ post) :=
      lexemesFrom_eq_iff.2 ⟨htext, reads_expand hm hi hread hs⟩
    rw [hlex, hls, expandFirst_append hnot, expandFirst, if_pos rfl]
    exact ⟨rfl, separated_expand hm hi hs⟩
  · have htext : rewritten = sql := by
      simp only [rewritten, hreplace, replaceFirstIn_of_notMem hmem]
      rfl
    rw [htext, expandFirst_of_notMem hmem]
    exact ⟨rfl, hs⟩

end SqlAccess

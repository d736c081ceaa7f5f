import SqlAccess.Command.Statement
import SqlAccess.Proofs.Binding.DistinctNames
import SqlAccess.Proofs.Binding.ListText

/-!
# Binding in a single pass

Every list that is bound rewrites the text, and the next one and the numbering read the rewritten
text again. Together they do what a single pass over the lexemes of the original text does
(`singlePass`), in which the first placeholder of a list becomes references to the list's items
and every other placeholder a reference to what it names: `Command.statement_bindSource`.
-/

namespace SqlAccess

/-- A character of a text, or a reference in the place of a placeholder. -/
inductive Piece
  | char (c : Char)
  | reference (r : Referent)
  deriving DecidableEq, Repr

/-- No argument is called like an item of a list. -/
def ItemNamesFree (args : NamedArguments) : Prop :=
  ∀ name ∈ args.map (·.1), ∀ list items, (list, .list items) ∈ args →
    ∀ i < items.length, name ≠ itemLabel list i

/-! ## The pass -/

/-- What a placeholder called `name` refers to: the single value or the item of that name. -/
def referent? (args : NamedArguments) (name : String) : Option Referent :=
  (referents args).find? (·.label == name)

/-- A placeholder that refers to something is a reference, all else is text. -/
def Lexeme.pieces (marker : Char) (args : NamedArguments) : Lexeme → List Piece
  | .placeholder name =>
    match referent? args (String.ofList name) with
    | some r => [.reference r]
    | none => (marker :: name).map .char
  | l => (l.text marker).map .char

/-- The name and the length of the list that a lexeme is the first placeholder of, if the lists
called `seen` have had theirs. -/
def Lexeme.newList? (args : NamedArguments) (seen : List String) :
    Lexeme → Option (String × Nat)
  | .placeholder name =>
    match args.lookup (String.ofList name) with
    | some (.list items) =>
      if String.ofList name ∈ seen then none else some (String.ofList name, items.length)
    | _ => none
  | _ => none

/-- References to the items of the list called `name` with a comma and a space between them; the
word `NULL` if there are none. -/
def itemPieces (name : String) (count : Nat) : List Piece :=
  if count = 0 then "NULL".toList.map .char
  else (((List.range count).map fun i => [.reference (.item name i)]).intersperse
    [.char ',', .char ' ']).flatten

/-- What becomes of lexemes behind the first placeholders of the lists called `seen`. -/
def singlePass (marker : Char) (args : NamedArguments) (seen : List String) :
    List Lexeme → List Piece
  | [] => []
  | l :: ls =>
    match l.newList? args seen with
    | some (name, count) => itemPieces name count ++ singlePass marker args (name :: seen) ls
    | none => l.pieces marker args ++ singlePass marker args seen ls

namespace Piece

def reference? : Piece → Option Referent
  | char _ => none
  | reference r => some r

/-- A piece as it is written if references have their places in `order` as numbers. -/
def written (order : List Referent) : Piece → List Char
  | char c => [c]
  | reference r => (referenceText (order.idxOf r + 1)).toList

end Piece

/-- What `pieces` refer to, in text order. -/
def references (pieces : List Piece) : List Referent :=
  pieces.filterMap (·.reference?)

/-- What `pieces` refer to, each in the place of its first reference. -/
def referenced (pieces : List Piece) : List Referent :=
  (references pieces).eraseDups

/-- The text that pieces make up, with references numbered from one on. -/
def writtenText (pieces : List Piece) : String :=
  String.ofList (pieces.flatMap (·.written (referenced pieces)))

/-! ## The pass among lexemes -/

/-- The lexemes behind the first placeholders of the lists called `seen`, with the first
placeholder of every other list replaced by those of its items. -/
def writeOut (args : NamedArguments) (seen : List String) : List Lexeme → List Lexeme
  | [] => []
  | l :: ls =>
    match l.newList? args seen with
    | some (name, count) => itemLexemes name count ++ writeOut args (name :: seen) ls
    | none => l :: writeOut args seen ls

variable {marker : Char} {args : NamedArguments} {seen : List String} {name : String}

theorem mem_joined {names : List (List Char)} {n : List Char}
    (h : .placeholder n ∈ joined names) : n ∈ names := by
  fun_induction joined names with
  | case1 => cases h
  | case2 name => simpa using h
  | case3 name names hne ih =>
    simp only [List.mem_cons, reduceCtorEq, false_or, Lexeme.placeholder.injEq] at h
    rcases h with rfl | h
    · exact List.mem_cons_self
    · exact List.mem_cons_of_mem _ (ih h)

theorem mem_itemLexemes {list : String} {count : Nat} {n : List Char}
    (h : .placeholder n ∈ itemLexemes list count) :
    ∃ i < count, n = (itemLabel list i).toList := by
  unfold itemLexemes at h
  split at h
  · simp at h
  · obtain ⟨i, hi, rfl⟩ := List.mem_map.1 (mem_joined h)
    exact ⟨i, List.mem_range.1 hi, rfl⟩

/-- `name` is a list of `items` that has not been seen. -/
def Unseen (args : NamedArguments) (seen : List String) (name : String) (items : List Value) :
    Prop :=
  name ∉ seen ∧ args.lookup name = some (.list items)

theorem newList?_eq_some_iff {l : Lexeme} {n : String} {count : Nat} :
    l.newList? args seen = some (n, count) ↔
      l = .placeholder n.toList ∧ ∃ items, Unseen args seen n items ∧ count = items.length := by
  constructor
  · intro h
    unfold Lexeme.newList? at h
    split at h
    · split at h
      · next items hl =>
        split at h
        · cases h
        · next hseen =>
          obtain ⟨rfl, rfl⟩ := Prod.mk.inj (Option.some.inj h)
          exact ⟨by simp, items, ⟨hseen, hl⟩, rfl⟩
      · cases h
    · cases h
  · rintro ⟨rfl, items, ⟨hseen, hl⟩, rfl⟩
    simp [Lexeme.newList?, hl, hseen]

/-- Only the lists that have not been seen matter. -/
theorem writeOut_congr {args' : NamedArguments} {seen' : List String}
    (h : ∀ n items, Unseen args seen n items ↔ Unseen args' seen' n items) (ls : List Lexeme) :
    writeOut args seen ls = writeOut args' seen' ls := by
  induction ls generalizing seen seen' with
  | nil => rfl
  | cons l ls ih =>
    have hl : l.newList? args seen = l.newList? args' seen' := by
      refine Option.ext fun ⟨n, count⟩ => ?_
      simp only [newList?_eq_some_iff, h]
    rw [writeOut, writeOut, hl]
    split
    · next n count _ =>
      congr 1
      refine ih fun m items => ?_
      simp only [Unseen, List.mem_cons, not_or, and_assoc]
      exact and_congr_right fun _ => h m items
    · rw [ih h]

theorem lookup_eq_none (h : name ∉ args.map (·.1)) : args.lookup name = none := by
  rw [List.lookup_eq_none_iff]
  intro p hp
  have hne : name ≠ p.1 := fun he => h (List.mem_map.2 ⟨p, hp, he.symm⟩)
  simpa using hne

theorem mem_of_lookup {a : Argument} (h : args.lookup name = some a) : (name, a) ∈ args := by
  obtain ⟨l₁, l₂, rfl, -⟩ := List.lookup_eq_some_iff.1 h
  simp

theorem lookup_append_singleton {a : Argument} (h : name ∉ args.map (·.1)) (n : String) :
    (args ++ [(name, a)]).lookup n = if n = name then some a else args.lookup n := by
  rw [List.lookup_append]
  by_cases hn : n = name
  · simp [hn, lookup_eq_none h]
  · have hne : (n == name) = false := by simpa using hn
    rw [List.lookup_cons, hne]
    simp [hn]

/-- Adding an argument that is not a list changes nothing. -/
theorem writeOut_scalar {v : Value} (hname : name ∉ args.map (·.1)) (ls : List Lexeme) :
    writeOut (args ++ [(name, .scalar v)]) seen ls = writeOut args seen ls := by
  refine writeOut_congr (fun n items => ?_) ls
  rw [Unseen, Unseen, lookup_append_singleton hname]
  by_cases hn : n = name
  · simp [hn, lookup_eq_none hname]
  · rw [if_neg hn]

theorem unseen_append_list {items items' : List Value} (hname : name ∉ args.map (·.1))
    (n : String) :
    Unseen (args ++ [(name, .list items)]) (name :: seen) n items' ↔
      Unseen args seen n items' := by
  rw [Unseen, Unseen, lookup_append_singleton hname]
  by_cases hn : n = name
  · simp [hn, lookup_eq_none hname]
  · simp [hn]

/-- Adding a list writes it out in the place of its first placeholder. -/
theorem writeOut_list {items : List Value} (hname : name ∉ args.map (·.1)) (hseen : name ∉ seen)
    (hfree : ∀ list items, (list, .list items) ∈ args → ∀ i < items.length, name ≠ itemLabel list i)
    (ls : List Lexeme) :
    writeOut (args ++ [(name, .list items)]) seen ls =
      expandFirst name.toList (itemLexemes name items.length) (writeOut args seen ls) := by
  induction ls generalizing seen with
  | nil => rfl
  | cons l ls ih =>
    by_cases hl : l = .placeholder name.toList
    · have hnew : l.newList? (args ++ [(name, .list items)]) seen = some (name, items.length) := by
        refine newList?_eq_some_iff.2 ⟨hl, items, ⟨hseen, ?_⟩, rfl⟩
        rw [lookup_append_singleton hname, if_pos rfl]
      have hold : l.newList? args seen = none := by
        rw [Option.eq_none_iff_forall_not_mem]
        rintro ⟨n, count⟩ hn
        obtain ⟨hl', items', ⟨-, hlookup⟩, -⟩ := newList?_eq_some_iff.1 hn
        obtain rfl : n = name := String.toList_inj.1 (by simpa [hl] using hl'.symm)
        rw [lookup_eq_none hname] at hlookup
        cases hlookup
      rw [writeOut, hnew, writeOut, hold, expandFirst, if_pos hl]
      exact congrArg _ (writeOut_congr (fun n items' => unseen_append_list hname n) ls)
    · have hsame : l.newList? (args ++ [(name, .list items)]) seen = l.newList? args seen := by
        refine Option.ext fun p => ?_
        obtain ⟨n, count⟩ := p
        rw [newList?_eq_some_iff, newList?_eq_some_iff]
        refine and_congr_right fun hn => ?_
        have hne : n ≠ name := fun he => hl (he ▸ hn)
        simp only [Unseen, lookup_append_singleton hname, if_neg hne]
      rw [writeOut, hsame, writeOut]
      split
      · next n count hn =>
        obtain ⟨rfl, items', ⟨-, hlookup⟩, rfl⟩ := newList?_eq_some_iff.1 hn
        have hne : name ≠ n := fun he => hl (he ▸ rfl)
        have hnot : .placeholder name.toList ∉ itemLexemes n items'.length := by
          intro hmem
          obtain ⟨i, hi, he⟩ := mem_itemLexemes hmem
          exact hfree n items' (mem_of_lookup hlookup) i hi (String.toList_inj.1 he)
        rw [expandFirst_append hnot, ih (by simp [hne, hseen])]
      · rw [expandFirst, if_neg hl, ih hseen]

/-! ## From lexemes to pieces -/

theorem ItemNamesFree.uncaptured (h : ItemNamesFree args) : Uncaptured args :=
  fun name v hv => h name (List.mem_map.2 ⟨(name, .scalar v), hv, rfl⟩)

theorem referent?_eq_some_iff (hu : Uncaptured args) {r : Referent} :
    referent? args name = some r ↔ r ∈ referents args ∧ r.label = name := by
  constructor
  · intro h
    exact ⟨List.mem_of_find?_eq_some h, by simpa using List.find?_some h⟩
  · rintro ⟨hr, rfl⟩
    cases hf : referent? args r.label with
    | none =>
      have := List.find?_eq_none.1 hf r hr
      simp at this
    | some s =>
      have hs : s ∈ referents args := List.mem_of_find?_eq_some hf
      have hlabel : s.label = r.label := by simpa using List.find?_some hf
      rw [Referent.label_inj hu hs hr hlabel]

theorem pieces_joined (marker : Char) (args : NamedArguments) (names : List String) :
    (joined (names.map (·.toList))).flatMap (·.pieces marker args) =
      ((names.map fun n => (Lexeme.placeholder n.toList).pieces marker args).intersperse
        [.char ',', .char ' ']).flatten := by
  match names with
  | [] => rfl
  | [n] => simp [joined]
  | n :: m :: names =>
    have ih := pieces_joined marker args (m :: names)
    simp only [List.map_cons, joined, List.flatMap_cons, List.intersperse_cons_cons,
      List.flatten_cons] at ih ⊢
    rw [ih]
    rfl

theorem pieces_itemLexemes {count : Nat}
    (h : ∀ i < count, referent? args (itemLabel name i) = some (.item name i)) :
    (itemLexemes name count).flatMap (·.pieces marker args) = itemPieces name count := by
  unfold itemLexemes itemPieces
  split
  · rfl
  · have hitems : (List.range count).map (fun i => (itemLabel name i).toList) =
        ((List.range count).map (itemLabel name)).map (·.toList) := by
      rw [List.map_map]
      rfl
    rw [hitems, pieces_joined, List.map_map]
    congr 2
    refine List.map_congr_left fun i hi => ?_
    simp [Lexeme.pieces, h i (List.mem_range.1 hi)]

theorem pieces_writeOut (hfree : ItemNamesFree args) (seen : List String) (ls : List Lexeme) :
    (writeOut args seen ls).flatMap (·.pieces marker args) = singlePass marker args seen ls := by
  induction ls generalizing seen with
  | nil => rfl
  | cons l ls ih =>
    rw [writeOut, singlePass]
    split
    · next name count hl =>
      obtain ⟨rfl, items, ⟨-, hlookup⟩, rfl⟩ := newList?_eq_some_iff.1 hl
      rw [List.flatMap_append, ih, pieces_itemLexemes]
      intro i hi
      refine (referent?_eq_some_iff hfree.uncaptured).2 ⟨mem_referents_iff.2 ?_, rfl⟩
      exact .inr ⟨name, items, i, rfl, mem_of_lookup hlookup, hi⟩
    · rw [List.flatMap_cons, ih]

end SqlAccess

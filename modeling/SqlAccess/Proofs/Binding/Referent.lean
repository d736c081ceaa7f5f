import Mathlib.Data.List.Nodup
import Std.Data.String.ToNat
import SqlAccess.Command.Binding
import SqlAccess.Proofs.SqlText.Numbering

/-!
# What bound names refer to

Binding gives every single value the name it is bound to, and every item of a list a label of its
own, made of the list's name and the item's position. A label can be read in one way only
(`itemLabel_inj`), so the names of pairwise distinct arguments stay distinct exactly if no single
value is called like an item of a list (`nodup_labels_iff`).
-/

namespace SqlAccess

/-- What a bound name refers to: a single value, or an item of a list. -/
inductive Referent
  | single (name : String)
  | item (list : String) (i : Nat)
  deriving DecidableEq, Repr

/-- The name of item `i` of the list called `name`, marker excluded. -/
def itemLabel (name : String) (i : Nat) : String :=
  name ++ "_" ++ Nat.repr i

namespace Referent

/-- The name of a referent, marker excluded. -/
def label : Referent → String
  | single name => name
  | item list i => itemLabel list i

/-- The name of the argument that a referent is part of. -/
def owner : Referent → String
  | single name => name
  | item list _ => list

/-- The value that `args` give a referent. -/
def value? (args : NamedArguments) : Referent → Option Value
  | single name =>
    match args.lookup name with
    | some (.scalar v) => some v
    | _ => none
  | item list i =>
    match args.lookup list with
    | some (.list items) => items[i]?
    | _ => none

end Referent

/-- What binding an argument to `name` gives a name, and with which value. -/
def Argument.bound (name : String) : Argument → List (Referent × Value)
  | scalar v => [(.single name, v)]
  | list items => items.zipIdx.map fun (v, i) => (.item name i, v)

/-- What binding `args` gives names, in the order of binding. -/
def boundValues (args : NamedArguments) : List (Referent × Value) :=
  args.flatMap fun (name, a) => a.bound name

def referents (args : NamedArguments) : List Referent :=
  (boundValues args).map (·.1)

/-- No single value is called like an item of a list. -/
def Uncaptured (args : NamedArguments) : Prop :=
  ∀ name v, (name, .scalar v) ∈ args → ∀ list items, (list, .list items) ∈ args →
    ∀ i < items.length, name ≠ itemLabel list i

/-! ## Labels -/

theorem toList_itemLabel (name : String) (i : Nat) :
    (itemLabel name i).toList = name.toList ++ '_' :: Nat.toDigits 10 i := by
  simp [itemLabel]

theorem itemName_eq (marker : Char) (name : String) (i : Nat) :
    itemName marker name i = fullName marker (itemLabel name i) := rfl

/-- A number holds no underscore, so the last underscore of a label ends the list's name. -/
theorem itemLabel_inj {m n : String} {i j : Nat} (h : itemLabel m i = itemLabel n j) :
    m = n ∧ i = j := by
  have hl := congrArg (·.toList.reverse) h
  simp only [toList_itemLabel, List.reverse_append, List.reverse_cons, List.append_assoc,
    List.singleton_append] at hl
  have hdigits (k : Nat) : '_' ∉ (Nat.toDigits 10 k).reverse := by simp
  obtain ⟨hij, hmn⟩ : Nat.toDigits 10 i = Nat.toDigits 10 j ∧ m = n := by
    rcases List.append_eq_append_iff.1 hl with ⟨c, hc, hc'⟩ | ⟨c, hc, hc'⟩
    · cases c with
      | nil => simp_all [String.toList_inj]
      | cons d c =>
        obtain ⟨rfl, -⟩ := List.cons.inj hc'
        exact absurd (by rw [hc]; simp) (hdigits j)
    · cases c with
      | nil => simp_all [String.toList_inj]
      | cons d c =>
        obtain ⟨rfl, -⟩ := List.cons.inj hc'
        exact absurd (by rw [hc]; simp) (hdigits i)
  refine ⟨hmn, Nat.repr_injective ?_⟩
  rw [Nat.repr_eq_ofList_toDigits, Nat.repr_eq_ofList_toDigits, hij]

theorem fullName_inj {marker : Char} {m n : String} (h : fullName marker m = fullName marker n) :
    m = n := by
  rw [← logicalName_fullName marker m, h, logicalName_fullName]

/-! ## The referents of arguments -/

theorem Argument.owner_of_mem_bound {name : String} {a : Argument} {r : Referent}
    (h : r ∈ (a.bound name).map (·.1)) : r.owner = name := by
  cases a with
  | scalar v => simp_all [bound, Referent.owner]
  | list items =>
    simp only [bound, List.map_map, List.mem_map, Function.comp_apply] at h
    obtain ⟨p, -, rfl⟩ := h
    rfl

theorem Argument.nodup_bound (name : String) (a : Argument) :
    ((a.bound name).map (·.1)).Nodup := by
  cases a with
  | scalar v => simp [bound]
  | list items =>
    have h : (bound name (list items)).map (·.1) =
        (List.range items.length).map (.item name) := by
      rw [bound, List.map_map, List.range_eq_range', ← List.zipIdx_map_snd 0 items, List.map_map]
      rfl
    rw [h]
    exact List.nodup_range.map fun i j hij => (Referent.item.inj hij).2

theorem mem_boundValues_iff {args : NamedArguments} {r : Referent} {v : Value} :
    (r, v) ∈ boundValues args ↔
      (∃ name, r = .single name ∧ (name, .scalar v) ∈ args) ∨
        ∃ list items i, r = .item list i ∧ (list, .list items) ∈ args ∧ items[i]? = some v := by
  simp only [boundValues, List.mem_flatMap, Prod.exists]
  constructor
  · rintro ⟨name, w | items, ha, hr⟩
    · obtain ⟨rfl, rfl⟩ := by simpa [Argument.bound] using hr
      exact .inl ⟨name, rfl, ha⟩
    · obtain ⟨p, hp, he⟩ := List.mem_map.1 hr
      obtain ⟨rfl, rfl⟩ := Prod.mk.inj he
      exact .inr ⟨name, items, p.2, rfl, ha, List.mem_zipIdx_iff_getElem?.1 hp⟩
  · rintro (⟨name, rfl, ha⟩ | ⟨list, items, i, rfl, ha, hi⟩)
    · exact ⟨name, .scalar v, ha, by simp [Argument.bound]⟩
    · exact ⟨list, .list items, ha,
        List.mem_map.2 ⟨(v, i), List.mem_zipIdx_iff_getElem?.2 hi, rfl⟩⟩

theorem mem_referents_iff {args : NamedArguments} {r : Referent} :
    r ∈ referents args ↔
      (∃ name v, r = .single name ∧ (name, .scalar v) ∈ args) ∨
        ∃ list items i, r = .item list i ∧ (list, .list items) ∈ args ∧ i < items.length := by
  simp only [referents, List.mem_map, Prod.exists, exists_and_right, exists_eq_right,
    mem_boundValues_iff]
  constructor
  · rintro ⟨v, ⟨name, rfl, ha⟩ | ⟨list, items, i, rfl, ha, hi⟩⟩
    · exact .inl ⟨name, v, rfl, ha⟩
    · exact .inr ⟨list, items, i, rfl, ha, (List.getElem?_eq_some_iff.1 hi).1⟩
  · rintro (⟨name, v, rfl, ha⟩ | ⟨list, items, i, rfl, ha, hi⟩)
    · exact ⟨v, .inl ⟨name, rfl, ha⟩⟩
    · exact ⟨items[i], .inr ⟨list, items, i, rfl, ha, List.getElem?_eq_getElem hi⟩⟩

theorem nodup_referents {args : NamedArguments} (h : (args.map (·.1)).Nodup) :
    (referents args).Nodup := by
  rw [referents, boundValues, List.map_flatMap, List.nodup_flatMap]
  refine ⟨fun p _ => p.2.nodup_bound p.1, ?_⟩
  refine (List.pairwise_map.1 h).imp fun hne r hr hr' => hne ?_
  rw [← Argument.owner_of_mem_bound hr, Argument.owner_of_mem_bound hr']

/-- Where no single value is called like an item, a label belongs to one referent. -/
theorem Referent.label_inj {args : NamedArguments} (hu : Uncaptured args) {r s : Referent}
    (hr : r ∈ referents args) (hs : s ∈ referents args) (h : r.label = s.label) : r = s := by
  rcases mem_referents_iff.1 hr with ⟨n, v, rfl, hn⟩ | ⟨l, items, i, rfl, hl, hi⟩ <;>
    rcases mem_referents_iff.1 hs with ⟨n', v', rfl, hn'⟩ | ⟨l', items', i', rfl, hl', hi'⟩
  · exact congrArg single h
  · exact absurd h (hu n v hn l' items' hl' i' hi')
  · exact absurd h.symm (hu n' v' hn' l items hl i hi)
  · obtain ⟨rfl, rfl⟩ := itemLabel_inj h
    rfl

theorem nodup_labels_iff {args : NamedArguments} (h : (args.map (·.1)).Nodup) :
    ((referents args).map (·.label)).Nodup ↔ Uncaptured args := by
  constructor
  · intro hnd name v hv list items hl i hi he
    have hr : .single name ∈ referents args := mem_referents_iff.2 (.inl ⟨name, v, rfl, hv⟩)
    have hs : .item list i ∈ referents args :=
      mem_referents_iff.2 (.inr ⟨list, items, i, rfl, hl, hi⟩)
    cases List.inj_on_of_nodup_map hnd hr hs he
  · intro hu
    exact (nodup_referents h).map_on fun r hr s hs => Referent.label_inj hu hr hs

theorem lookup_of_mem {α β : Type} [DecidableEq α] {l : List (α × β)} (h : (l.map (·.1)).Nodup)
    {a : α} {b : β} (hab : (a, b) ∈ l) : l.lookup a = some b := by
  induction l with
  | nil => simp at hab
  | cons p l ih =>
    obtain ⟨hp, hl⟩ := List.nodup_cons.1 h
    rcases List.mem_cons.1 hab with rfl | hab
    · simp
    · have hne : a ≠ p.1 := fun he => hp (List.mem_map.2 ⟨(a, b), hab, he⟩)
      rw [List.lookup_cons, beq_false_of_ne hne]
      exact ih hl hab

theorem Referent.value?_of_mem {args : NamedArguments} (h : (args.map (·.1)).Nodup)
    {r : Referent} {v : Value} (hr : (r, v) ∈ boundValues args) : r.value? args = some v := by
  rcases mem_boundValues_iff.1 hr with ⟨name, rfl, ha⟩ | ⟨list, items, i, rfl, ha, hi⟩
  · simp [value?, lookup_of_mem h ha]
  · simp [value?, lookup_of_mem h ha, hi]

/-! ## The parameters of bound arguments -/

/-- The parameter that gives a referent its name and value. -/
def Referent.parameter (marker : Char) (p : Referent × Value) : Parameter :=
  .input (fullName marker p.1.label) p.2

namespace Command

variable (c : Command) (marker : Char)

theorem parameters_bindArgument (name : String) (a : Argument) :
    (c.bindArgument marker name a).parameters =
      c.parameters ++ (a.bound name).map (Referent.parameter marker) := by
  cases a with
  | scalar v => rfl
  | list items =>
    rw [bindArgument, bindList, Argument.bound, List.mapIdx_eq_zipIdx_map, List.map_map]
    rfl

theorem bindProperties_cons (p : String × Argument) (args : NamedArguments) :
    c.bindProperties marker (p :: args) =
      (c.bindArgument marker p.1 p.2).bindProperties marker args := rfl

theorem parameters_bindProperties (args : NamedArguments) :
    (c.bindProperties marker args).parameters =
      c.parameters ++ (boundValues args).map (Referent.parameter marker) := by
  induction args generalizing c with
  | nil => simp [bindProperties, boundValues]
  | cons p args ih =>
    rw [bindProperties_cons, ih, parameters_bindArgument]
    simp [boundValues]

theorem parameterNames_bindProperties (args : NamedArguments) :
    (c.bindProperties marker args).parameterNames =
      c.parameterNames ++ (referents args).map fun r => fullName marker r.label := by
  simp [parameterNames, parameters_bindProperties, referents, Referent.parameter, Parameter.input,
    Function.comp_def]

end Command

end SqlAccess

import Mathlib.Data.List.Basic
import SqlAccess.Table.Reader

/-!
# What a reader delivers

A reader is driven by calls that take the next row, in one of two ways, and by calls that only look.
Whatever the calls, those that take a row go through the rows one by one: they deliver the first of
them (`delivered_eq_take`) and leave the others (`remaining_after`). A row is loaded exactly if the
last call that took one was a `read` that was true (`current_after_iff`), and once the end is
reported it is reported for good (`reports_end_iff`).

Main statement: `delivered_once_in_order`.
-/

namespace SqlAccess.Reader

/-- A call on a reader. Those that only look (`hasRows`, `current`, `value`, `get`, `getBytes`) give
back no other reader. -/
inductive Call
  | read
  | next
  | look
  deriving DecidableEq, Repr

/-- Whether a call takes a row. -/
def Call.advances : Call → Bool
  | .look => false
  | _ => true

/-- The reader behind a call. -/
def step (r : Reader) : Call → Reader
  | .read => r.read.2
  | .next => r.next.2
  | .look => r

/-- The reader behind several calls. -/
def after (r : Reader) (calls : List Call) : Reader :=
  calls.foldl step r

/-- The row that a call delivers: the one that is current behind a `read` that was true, or the one
that `next` gives. -/
def delivery? (r : Reader) : Call → Option Row
  | .read => if r.read.1 then r.read.2.current.toOption else none
  | .next => r.next.1
  | .look => none

/-- The rows that several calls deliver. -/
def delivered (r : Reader) : List Call → List Row
  | [] => []
  | c :: calls => (r.delivery? c).toList ++ (r.step c).delivered calls

variable {r : Reader} {row : Row} {looks : List Call}

@[simp] theorem after_nil (r : Reader) : r.after [] = r := rfl

@[simp] theorem after_cons (r : Reader) (c : Call) (calls : List Call) :
    r.after (c :: calls) = (r.step c).after calls := rfl

theorem after_append (r : Reader) (calls later : List Call) :
    r.after (calls ++ later) = (r.after calls).after later :=
  List.foldl_append

theorem current_eq_ok_iff : r.current = .ok row ↔ r.current? = some row := by
  unfold current
  cases r.current? <;> simp

/-! ## One call -/

theorem read_eq_true_iff : r.read.1 = true ↔ r.remaining ≠ [] := by
  simp [read]

theorem read_eq_false_iff : r.read.1 = false ↔ r.remaining = [] := by
  simp [read]

theorem next_isSome_iff : r.next.1.isSome = true ↔ r.remaining ≠ [] := by
  cases h : r.remaining <;> simp [next, h]

theorem next_eq_none_iff : r.next.1 = none ↔ r.remaining = [] := by
  simp [next]

theorem delivery?_eq (r : Reader) (c : Call) :
    r.delivery? c = if c.advances then r.remaining.head? else none := by
  cases c with
  | next => rfl
  | look => rfl
  | read =>
    cases h : r.remaining <;>
      simp [delivery?, read, current, Call.advances, h, Except.toOption]

theorem remaining_step (r : Reader) (c : Call) :
    (r.step c).remaining = if c.advances then r.remaining.tail else r.remaining := by
  cases c <;> rfl

/-! ## Several calls -/

/-- As many rows are delivered as were asked for, while there are any. -/
theorem delivered_eq_take (r : Reader) (calls : List Call) :
    r.delivered calls = r.remaining.take (calls.countP Call.advances) := by
  induction calls generalizing r with
  | nil => rfl
  | cons c calls ih =>
    rw [delivered, ih, delivery?_eq, remaining_step, List.countP_cons]
    cases c.advances with
    | false => rfl
    | true => cases r.remaining <;> simp

theorem remaining_after (r : Reader) (calls : List Call) :
    (r.after calls).remaining = r.remaining.drop (calls.countP Call.advances) := by
  induction calls generalizing r with
  | nil => rfl
  | cons c calls ih =>
    rw [after_cons, ih, remaining_step, List.countP_cons]
    cases c.advances with
    | false => rfl
    | true => simp

/-- Rows remain while fewer of them have been delivered than there are. -/
theorem remaining_after_ne_nil_iff (t : Table) (calls : List Call) :
    ((ofTable t).after calls).remaining ≠ [] ↔
      ((ofTable t).delivered calls).length < t.size := by
  rw [remaining_after, delivered_eq_take, List.length_take, Ne, List.drop_eq_nil_iff]
  show ¬ t.rows.length ≤ _ ↔ min _ t.rows.length < t.rows.length
  omega

theorem length_delivered_le (t : Table) (calls : List Call) :
    ((ofTable t).delivered calls).length ≤ t.size := by
  rw [delivered_eq_take]
  exact List.length_take_le' _ _

/-- Behind the end there is only the end. -/
theorem reports_end_iff :
    r.read.1 = false ∨ r.next.1 = none ↔
      ∀ later, (r.after later).read.1 = false ∧ (r.after later).next.1 = none := by
  constructor
  · intro h later
    have hend : r.remaining = [] := h.elim read_eq_false_iff.1 next_eq_none_iff.1
    have hlater : (r.after later).remaining = [] := by rw [remaining_after, hend, List.drop_nil]
    exact ⟨read_eq_false_iff.2 hlater, next_eq_none_iff.2 hlater⟩
  · intro h
    exact .inl (h []).1

/-! ## The loaded row -/

theorem after_looks (r : Reader) (h : ∀ c ∈ looks, c = .look) : r.after looks = r := by
  induction looks with
  | nil => rfl
  | cons c looks ih =>
    obtain rfl := h c List.mem_cons_self
    exact ih fun d hd => h d (List.mem_cons_of_mem _ hd)

/-- Calls only look, or one of them is the last that took a row. -/
theorem looks_or_exists_last (calls : List Call) :
    (∀ c ∈ calls, c = .look) ∨
      ∃ pre c looks, calls = pre ++ c :: looks ∧ c ≠ .look ∧ ∀ d ∈ looks, d = .look := by
  induction calls with
  | nil => exact .inl (by simp)
  | cons c calls ih =>
    rcases ih with hlooks | ⟨pre, d, looks, rfl, hd, hlooks⟩
    · by_cases hc : c = .look
      · exact .inl (by simpa [hc] using hlooks)
      · exact .inr ⟨[], c, calls, rfl, hc, hlooks⟩
    · exact .inr ⟨c :: pre, d, looks, rfl, hd, hlooks⟩

/-- A row is loaded exactly if the last call that took one was a `read` that was true. -/
theorem current_after_iff (t : Table) (calls : List Call) :
    (∃ row, ((ofTable t).after calls).current = .ok row) ↔
      ∃ pre looks, calls = pre ++ .read :: looks ∧ (∀ c ∈ looks, c = .look) ∧
        ((ofTable t).after pre).read.1 = true := by
  constructor
  · rintro ⟨row, hrow⟩
    rw [current_eq_ok_iff] at hrow
    rcases looks_or_exists_last calls with hlooks | ⟨pre, c, looks, rfl, hc, hlooks⟩
    · rw [after_looks _ hlooks] at hrow
      cases hrow
    · rw [after_append, after_cons, after_looks _ hlooks] at hrow
      -- of the calls that take a row only `read` loads one
      cases c with
      | look => exact absurd rfl hc
      | next => cases hrow
      | read =>
        have hne : ((ofTable t).after pre).remaining ≠ [] := by
          intro hnil
          simp [step, read, hnil] at hrow
        exact ⟨pre, looks, rfl, hlooks, read_eq_true_iff.2 hne⟩
  · rintro ⟨pre, looks, rfl, hlooks, hread⟩
    obtain ⟨row, rest, hrest⟩ := List.exists_cons_of_ne_nil (read_eq_true_iff.1 hread)
    refine ⟨row, current_eq_ok_iff.2 ?_⟩
    rw [after_append, after_cons, after_looks _ hlooks]
    simp [step, read, hrest]

theorem hasRows_eq_false_iff :
    r.hasRows = false ↔ (∀ row, r.current ≠ .ok row) ∧ r.remaining = [] := by
  simp only [ne_eq, current_eq_ok_iff, ← Option.eq_none_iff_forall_ne_some]
  simp [hasRows]

/-- Whatever the calls, the rows that are delivered are the first rows of the table, as many as were
asked for while there are any; both ways to take a row succeed exactly while fewer are delivered
than there are, and once one of them has reported the end, both do for good; a row is loaded exactly
if the last call that took one was a `read` that was true; and `hasRows` is false exactly if no row
is loaded and all are delivered. -/
theorem delivered_once_in_order (t : Table) (calls : List Call) :
    let r := (ofTable t).after calls
    let rows := (ofTable t).delivered calls
    rows = t.rows.take (calls.countP Call.advances) ∧
      (r.read.1 = true ↔ rows.length < t.size) ∧
      (r.next.1.isSome = true ↔ rows.length < t.size) ∧
      (r.read.1 = false ∨ r.next.1 = none ↔
        ∀ later, (r.after later).read.1 = false ∧ (r.after later).next.1 = none) ∧
      ((∃ row, r.current = .ok row) ↔
        ∃ pre looks, calls = pre ++ .read :: looks ∧ (∀ c ∈ looks, c = .look) ∧
          ((ofTable t).after pre).read.1 = true) ∧
      (r.hasRows = false ↔ (∀ row, r.current ≠ .ok row) ∧ rows.length = t.size) := by
  intro r rows
  have hleft : r.remaining ≠ [] ↔ rows.length < t.size := remaining_after_ne_nil_iff t calls
  have hall : r.remaining = [] ↔ rows.length = t.size := by
    have hle : rows.length ≤ t.size := length_delivered_le t calls
    rw [← not_iff_not, ← Ne, hleft]
    omega
  refine ⟨delivered_eq_take _ calls, ?_, ?_, reports_end_iff, current_after_iff t calls, ?_⟩
  · rw [read_eq_true_iff, hleft]
  · rw [next_isSome_iff, hleft]
  · rw [hasRows_eq_false_iff, hall]

end SqlAccess.Reader

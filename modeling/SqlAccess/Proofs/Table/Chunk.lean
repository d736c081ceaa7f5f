import Mathlib.Data.List.Basic
import SqlAccess.Proofs.Table.Delivery

/-!
# Bytes in chunks

One call of `getBytes` copies as many bytes of a field as are left and fit, and touches nothing
else of the buffer (`getBytes_of_bytes`, `getElem?_copied`); with the buffer as a state, a call that
fails leaves it as it is (`run_fill`). Calls at the offsets that the calls before have reached
therefore come to the end of the field, whatever the sizes of the buffers (`exists_drains`), and
what they have copied is the field (`Drains.flatten_eq`).

Main statement: `getBytes_rebuilds_field`.
-/

namespace SqlAccess.Reader

variable {r : Reader} {row : Row} {v : Value} {i offset k : Nat} {bytes : List UInt8}
  {buffers : Nat → List UInt8} {parts : List (List UInt8)}

/-! ## Rows and columns -/

/-- All rows of the reader have its columns. -/
structure Uniform (r : Reader) : Prop where
  remaining : ∀ row ∈ r.remaining, row.columns = r.columns
  current : ∀ row, r.current? = some row → row.columns = r.columns

theorem uniform_ofTable (t : Table) : (ofTable t).Uniform :=
  ⟨t.columns_eq, nofun⟩

theorem Uniform.step (h : r.Uniform) (c : Call) : (r.step c).Uniform := by
  cases c with
  | look => exact h
  | next => exact ⟨fun row hrow => h.remaining row (List.mem_of_mem_tail hrow), nofun⟩
  | read =>
    exact ⟨fun row hrow => h.remaining row (List.mem_of_mem_tail hrow),
      fun row hrow => h.remaining row (List.mem_of_head? hrow)⟩

theorem Uniform.after (h : r.Uniform) (calls : List Call) : (r.after calls).Uniform := by
  induction calls generalizing r with
  | nil => exact h
  | cons c calls ih => exact ih (h.step c)

theorem uniform_after_ofTable (t : Table) (calls : List Call) :
    ((ofTable t).after calls).Uniform :=
  (uniform_ofTable t).after calls

theorem name_of_lt (h : i < r.fieldCount) : r.name i = .ok r.columns[i] := by
  rw [name, List.getElem?_eq_getElem h]

theorem name_of_le (h : r.fieldCount ≤ i) : r.name i = .error (.ordinalOutOfRange i) := by
  rw [name, List.getElem?_eq_none h]

theorem value_of_current (h : r.current = .ok row) (i : Nat) : r.value i = row.value i := by
  rw [value, h]
  rfl

theorem exists_row_of_value (h : r.value i = .ok v) :
    ∃ row, r.current = .ok row ∧ row.values[i]? = some v := by
  cases hrow : r.current with
  | error e => simp [value, hrow, bind, Except.bind] at h
  | ok row =>
    rw [value_of_current hrow, Row.value] at h
    refine ⟨row, rfl, ?_⟩
    split at h
    · next w hw => rw [hw, Except.ok.inj h]
    · cases h

theorem Uniform.length_values (h : r.Uniform) (hrow : r.current = .ok row) :
    row.values.length = r.fieldCount := by
  rw [row.width_eq, h.current row (current_eq_ok_iff.1 hrow), fieldCount]

/-- The ordinal of a value is that of a column. -/
theorem Uniform.lt_of_value (h : r.Uniform) (hv : r.value i = .ok v) : i < r.fieldCount := by
  obtain ⟨row, hrow, hi⟩ := exists_row_of_value hv
  rw [← h.length_values hrow]
  exact (List.getElem?_eq_some_iff.1 hi).1

/-- A loaded row has a value for every column. -/
theorem Uniform.exists_value (h : r.Uniform) (hrow : r.current = .ok row)
    (hi : i < r.fieldCount) : ∃ v, r.value i = .ok v := by
  rw [← h.length_values hrow] at hi
  refine ⟨row.values[i], ?_⟩
  rw [value_of_current hrow, Row.value, List.getElem?_eq_getElem hi]

/-! ## One call -/

/-- The buffer behind a call that copies into it. -/
def copied (bytes : List UInt8) (offset : Nat) (buffer : List UInt8) : List UInt8 :=
  let n := copyCount bytes offset buffer.length
  (bytes.drop offset).take n ++ buffer.drop n

theorem getBytes_of_bytes (hi : i < r.fieldCount) (hv : r.value i = .ok (.bytes bytes))
    (offset : Nat) (buffer : List UInt8) :
    r.getBytes i offset (some buffer) =
      .ok (copyCount bytes offset buffer.length, copied bytes offset buffer) := by
  simp [getBytes, name_of_lt hi, hv, bind, Except.bind, pure, Except.pure, copied]

theorem length_take_drop (bytes : List UInt8) (offset capacity : Nat) :
    ((bytes.drop offset).take (copyCount bytes offset capacity)).length =
      copyCount bytes offset capacity := by
  rw [List.length_take, List.length_drop, copyCount]
  omega

theorem length_copied (bytes : List UInt8) (offset : Nat) (buffer : List UInt8) :
    (copied bytes offset buffer).length = buffer.length := by
  rw [copied, List.length_append, length_take_drop, List.length_drop, copyCount]
  omega

/-- The front of the buffer holds the bytes from the offset on, and the rest what it held. -/
theorem getElem?_copied (bytes : List UInt8) (offset : Nat) (buffer : List UInt8) (j : Nat) :
    (copied bytes offset buffer)[j]? =
      if j < copyCount bytes offset buffer.length then bytes[offset + j]? else buffer[j]? := by
  have hlength := length_take_drop bytes offset buffer.length
  split
  · next hj =>
    rw [copied, List.getElem?_append_left (by omega), List.getElem?_take_of_lt hj,
      List.getElem?_drop]
  · next hj =>
    rw [copied, List.getElem?_append_right (by omega), hlength, List.getElem?_drop]
    congr 1
    omega

/-- A call fails exactly if there is no buffer, no such column, no loaded row, or a value there that
is not bytes. -/
theorem Uniform.getBytes_error_iff (h : r.Uniform) (i offset : Nat)
    (buffer : Option (List UInt8)) :
    (∃ e, r.getBytes i offset buffer = .error e) ↔
      buffer = none ∨ r.fieldCount ≤ i ∨ (∀ row, r.current ≠ .ok row) ∨
        ∃ v, r.value i = .ok v ∧ ∀ bytes, v ≠ .bytes bytes := by
  cases buffer with
  | none => simp [getBytes, throw, throwThe, MonadExceptOf.throw]
  | some buffer =>
    rcases Nat.lt_or_ge i r.fieldCount with hi | hi
    · cases hrow : r.current with
      | error e =>
        have hv : r.value i = .error e := by rw [value, hrow]; rfl
        simp [getBytes, name_of_lt hi, hv, bind, Except.bind]
      | ok row =>
        obtain ⟨v, hv⟩ := h.exists_value hrow hi
        have hi' : ¬ r.fieldCount ≤ i := Nat.not_le.2 hi
        cases v with
        | bytes bytes => simp [getBytes_of_bytes hi hv, hv, hi']
        | _ => simp [getBytes, name_of_lt hi, hv, bind, Except.bind, throw, throwThe,
            MonadExceptOf.throw]
    · simp [getBytes, name_of_le hi, hi, bind, Except.bind]

/-! ## The caller's buffer -/

/-- `getBytes` as the caller sees it, with the buffer as a state that is written to last. -/
def fill (r : Reader) (i offset : Nat) : ExceptT Error (StateM (Option (List UInt8))) Nat := do
  let some buffer ← getThe (Option (List UInt8)) | throw .bufferRequired
  let name ← r.name i
  match ← r.value i with
  | .bytes bytes =>
    if bytes.length ≤ offset then return 0
    let n := copyCount bytes offset buffer.length
    set (some ((bytes.drop offset).take n ++ buffer.drop n))
    return n
  | v => throw (.notBytes name v)

/-- The buffer changes with a call that succeeds, and with no other. -/
theorem run_fill (r : Reader) (i offset : Nat) (buffer : Option (List UInt8)) :
    (r.fill i offset).run.run buffer =
      match r.getBytes i offset buffer with
      | .ok (n, after) => (.ok n, some after)
      | .error e => (.error e, buffer) := by
  cases buffer with
  | none => rfl
  | some buffer =>
    unfold fill getBytes
    cases hn : r.name i with
    | error e => rfl
    | ok name =>
      cases hv : r.value i with
      | error e => rfl
      | ok v =>
        cases v with
        | bytes bytes =>
          show (if bytes.length ≤ offset then pure 0 else _ :
            ExceptT Error (StateM (Option (List UInt8))) Nat).run.run (some buffer) = _
          split
          · next hend =>
            have hnone : copyCount bytes offset buffer.length = 0 := by
              rw [copyCount]
              omega
            simp only [bind, Except.bind, pure, Except.pure, hnone, List.take_zero, List.drop_zero,
              List.nil_append]
            rfl
          · rfl
        | _ => rfl

/-! ## One call after the other -/

/-- Calls with the buffers from the `k`-th on, the first at `offset` and each of the others where
the one before has come to, copy `parts` and then nothing. -/
inductive Drains (r : Reader) (i : Nat) (buffers : Nat → List UInt8) :
    Nat → Nat → List (List UInt8) → Prop
  | done {k offset : Nat} {after : List UInt8}
      (h : r.getBytes i offset (some (buffers k)) = .ok (0, after)) : Drains r i buffers k offset []
  | copied {k offset n : Nat} {after : List UInt8} {parts : List (List UInt8)}
      (h : r.getBytes i offset (some (buffers k)) = .ok (n, after)) (hn : n ≠ 0)
      (rest : Drains r i buffers (k + 1) (offset + n) parts) :
      Drains r i buffers k offset (after.take n :: parts)

section
variable (hi : i < r.fieldCount) (hv : r.value i = .ok (.bytes bytes))
include hi hv

/-- What is copied from an offset on is the rest of the field. -/
theorem Drains.flatten_eq (hb : ∀ k, buffers k ≠ []) (h : r.Drains i buffers k offset parts) :
    parts.flatten = bytes.drop offset := by
  induction h with
  | @done k offset after h =>
    rw [getBytes_of_bytes hi hv] at h
    have hn : copyCount bytes offset (buffers k).length = 0 := by
      simp only [Except.ok.injEq, Prod.mk.injEq] at h
      exact h.1
    have hpos := List.length_pos_iff.2 (hb k)
    rw [copyCount] at hn
    exact (List.drop_eq_nil_of_le (by omega)).symm
  | @copied k offset n after parts h hn rest ih =>
    rw [getBytes_of_bytes hi hv] at h
    simp only [Except.ok.injEq, Prod.mk.injEq] at h
    obtain ⟨rfl, rfl⟩ := h
    have hpart : (Reader.copied bytes offset (buffers k)).take
        (copyCount bytes offset (buffers k).length) =
          (bytes.drop offset).take (copyCount bytes offset (buffers k).length) := by
      rw [Reader.copied, List.take_left' (length_take_drop bytes offset _)]
    rw [List.flatten_cons, ih, hpart, ← List.drop_drop, List.take_append_drop]

/-- The calls come to an end: each copies a byte at least while any is left. -/
theorem exists_drains (k offset : Nat) : ∃ parts, r.Drains i buffers k offset parts := by
  -- by the number of bytes that are left
  obtain ⟨left, hleft⟩ : ∃ left, left = bytes.length - offset := ⟨_, rfl⟩
  induction left using Nat.strongRecOn generalizing k offset with
  | _ left ih =>
    have hcall := getBytes_of_bytes hi hv offset (buffers k)
    by_cases hn : copyCount bytes offset (buffers k).length = 0
    · rw [hn] at hcall
      exact ⟨[], .done hcall⟩
    · have hless : bytes.length - (offset + copyCount bytes offset (buffers k).length) < left := by
        rw [copyCount] at hn ⊢
        omega
      obtain ⟨parts, hparts⟩ := ih _ hless (k + 1) _ rfl
      exact ⟨_, .copied hcall hn hparts⟩

end

theorem bytesLength_of_bytes (hv : r.value i = .ok (.bytes bytes)) :
    r.bytesLength i = .ok bytes.length := by
  simp [bytesLength, hv, bind, Except.bind, pure, Except.pure]

/-- Let a reader have come anywhere in a table. Where the loaded row has bytes,
* calls with buffers that are not empty, each at the offset that the one before has come to, end,
  and what they have copied in order is the field, as long as `bytesLength` says;
* a call at any offset copies as many bytes as fit and are left there, and the rest of the buffer
  stays what it was.
A call fails exactly if there is no buffer, no such column, no loaded row or a value that is not
bytes, and then the buffer stays what it was. -/
theorem getBytes_rebuilds_field (t : Table) (calls : List Call) (i : Nat) :
    let r := (ofTable t).after calls
    (∀ bytes, r.value i = .ok (.bytes bytes) →
      (∀ buffers : Nat → List UInt8, (∀ k, buffers k ≠ []) →
        (∃ parts, r.Drains i buffers 0 0 parts) ∧
          ∀ parts, r.Drains i buffers 0 0 parts →
            parts.flatten = bytes ∧ r.bytesLength i = .ok parts.flatten.length) ∧
      ∀ offset buffer, ∃ after,
        r.getBytes i offset (some buffer) =
          .ok (min buffer.length (bytes.length - offset), after) ∧
        after.length = buffer.length ∧
        ∀ j, after[j]? =
          if j < min buffer.length (bytes.length - offset) then bytes[offset + j]?
          else buffer[j]?) ∧
    ∀ offset buffer,
      ((∃ e, r.getBytes i offset buffer = .error e) ↔
        buffer = none ∨ r.fieldCount ≤ i ∨ (∀ row, r.current ≠ .ok row) ∨
          ∃ v, r.value i = .ok v ∧ ∀ bytes, v ≠ .bytes bytes) ∧
      ∀ e, r.getBytes i offset buffer = .error e →
        (r.fill i offset).run.run buffer = (.error e, buffer) := by
  intro r
  have huniform : r.Uniform := uniform_after_ofTable t calls
  refine ⟨fun bytes hv => ⟨fun buffers hb => ?_, fun offset buffer => ?_⟩,
    fun offset buffer => ⟨huniform.getBytes_error_iff i offset buffer, fun e he => ?_⟩⟩
  · have hi := huniform.lt_of_value hv
    refine ⟨exists_drains hi hv 0 0, fun parts hparts => ?_⟩
    have hflatten : parts.flatten = bytes := hparts.flatten_eq hi hv hb
    refine ⟨hflatten, ?_⟩
    rw [bytesLength_of_bytes hv, hflatten]
  · have hcount : min buffer.length (bytes.length - offset) =
        copyCount bytes offset buffer.length := Nat.min_comm _ _
    rw [hcount]
    exact ⟨_, getBytes_of_bytes (huniform.lt_of_value hv) hv offset buffer,
      length_copied bytes offset buffer, getElem?_copied bytes offset buffer⟩
  · rw [run_fill, he]

theorem getBytes_rebuilds_field_uneven_buffers :
    let t : Table :=
      ⟨["id", "data"], [⟨["id", "data"], [.int16 1, .bytes [1, 2, 3, 4]], rfl⟩], by simp⟩
    let r := (ofTable t).after [.look, .read]
    let buffers : Nat → List UInt8 := fun k => if k = 0 then [9] else [8, 8]
    r.value 1 = .ok (.bytes [1, 2, 3, 4]) ∧ (∀ k, buffers k ≠ []) ∧
      ∃ parts, r.Drains 1 buffers 0 0 parts ∧ parts.flatten = [1, 2, 3, 4] := by
  intro t r buffers
  have hv : r.value 1 = .ok (.bytes [1, 2, 3, 4]) := rfl
  have hb : ∀ k, buffers k ≠ [] := by
    intro k
    simp only [buffers]
    split <;> simp
  obtain ⟨⟨parts, hparts⟩, hall⟩ :=
    ((getBytes_rebuilds_field t [.look, .read] 1).1 _ hv).1 buffers hb
  exact ⟨hv, hb, parts, hparts, (hall parts hparts).1⟩

end SqlAccess.Reader

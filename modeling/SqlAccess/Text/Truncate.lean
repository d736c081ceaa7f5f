/-!
# Cutting text to a number of bytes

Text is cut between characters: from the limit one walks back to a boundary.
-/

namespace SqlAccess.Text

/-- The last boundary between characters at or before byte `stop`. -/
def boundaryBelow (s : String) : Nat → Nat
  | 0 => 0
  | stop + 1 =>
    if (String.Pos.Raw.mk (stop + 1)).IsValid s then stop + 1 else boundaryBelow s stop

theorem isValid_boundaryBelow (s : String) (stop : Nat) :
    (String.Pos.Raw.mk (boundaryBelow s stop)).IsValid s := by
  fun_induction boundaryBelow s stop with
  | case1 => exact String.Pos.Raw.isValid_zero
  | case2 stop h => exact h
  | case3 stop h ih => exact ih

/-- The beginning of `s` up to the last boundary within the limit; all of `s` if it fits. -/
def truncated (limit : Nat) (s : String) : String :=
  if s.utf8ByteSize ≤ limit then s
  else (s.sliceTo (s.pos ⟨boundaryBelow s limit⟩ (isValid_boundaryBelow s limit))).copy

end SqlAccess.Text

/-!
# Parts of a text by bytes

Texts are taken apart at byte positions. A position inside a character or behind the end is no place
to cut: it gives nothing.
-/

namespace SqlAccess.Text

/-- The text in front of byte `i` and the text from it on. -/
def splitAt? (s : String) (i : Nat) : Option (String × String) :=
  if h : (String.Pos.Raw.mk i).IsValid s then
    some ((s.sliceTo (s.pos ⟨i⟩ h)).copy, (s.sliceFrom (s.pos ⟨i⟩ h)).copy)
  else none

/-- The text in front of byte `i`. -/
def before? (s : String) (i : Nat) : Option String :=
  (splitAt? s i).map (·.1)

/-- The text from byte `i` on. -/
def from? (s : String) (i : Nat) : Option String :=
  (splitAt? s i).map (·.2)

/-- The text from byte `i` up to byte `j`. -/
def between? (s : String) (i j : Nat) : Option String :=
  (before? s j).bind (from? · i)

/-- The character in front of byte `i`. -/
def charBefore? (s : String) (i : Nat) : Option Char :=
  (before? s i).bind (·.toList.getLast?)

/-- The character that starts at byte `i`. -/
def charAt? (s : String) (i : Nat) : Option Char :=
  (from? s i).bind (·.toList.head?)

theorem splitAt?_eq_some_iff {s a b : String} {i : Nat} :
    splitAt? s i = some (a, b) ↔ s = a ++ b ∧ a.utf8ByteSize = i := by
  constructor
  · intro h
    obtain ⟨hi, h⟩ := Option.dite_none_right_eq_some.1 h
    obtain ⟨rfl, rfl⟩ := Prod.mk.inj (Option.some.inj h)
    have hsplit := (s.pos ⟨i⟩ hi).splits
    refine ⟨hsplit.eq_append, ?_⟩
    have hoffset := hsplit.offset_eq_rawEndPos
    rw [String.offset_pos] at hoffset
    exact (congrArg String.Pos.Raw.byteIdx hoffset).symm
  · rintro ⟨rfl, rfl⟩
    have hi : (String.Pos.Raw.mk a.utf8ByteSize).IsValid (a ++ b) :=
      String.Pos.Raw.isValid_iff_exists_append.2 ⟨a, b, rfl, rfl⟩
    have hsplit : ((a ++ b).pos _ hi).Splits a b := ⟨rfl, String.offset_pos⟩
    obtain ⟨ha, hb⟩ := hsplit.eq ((a ++ b).pos _ hi).splits
    rw [splitAt?, dif_pos hi, ← ha, ← hb]

end SqlAccess.Text

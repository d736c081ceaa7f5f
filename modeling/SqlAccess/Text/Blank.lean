/-!
# White space

The code points with the property `White_Space`, and the texts that hold nothing else. Beside the
ASCII blanks these are the next-line control, the no-break space, the spaces of general
punctuation, the two separators and the ideographic space; zero-width characters are not blank.
-/

namespace SqlAccess.Text

def isBlank (c : Char) : Bool :=
  let n := c.toNat
  (9 ≤ n && n ≤ 13) || n == 0x20 || n == 0x85 || n == 0xA0 || n == 0x1680 ||
    (0x2000 ≤ n && n ≤ 0x200A) || n == 0x2028 || n == 0x2029 || n == 0x202F || n == 0x205F ||
    n == 0x3000

/-- Whether nothing is left of a text once white space is trimmed from its ends. -/
def isBlankText (s : String) : Bool :=
  s.toList.all isBlank

/-- `s` without the white space at its ends. -/
def trimmed (s : String) : String :=
  String.ofList ((s.toList.dropWhile isBlank).reverse.dropWhile isBlank).reverse

theorem isBlank_of_isWhitespace {c : Char} (h : c.isWhitespace = true) : isBlank c = true := by
  simp only [Char.isWhitespace, Bool.or_eq_true, decide_eq_true_eq] at h
  rcases h with ((h | h) | h) | h <;> subst h <;> decide

end SqlAccess.Text

/-!
# Hexadecimal text

Bytes as pairs of lower-case hexadecimal digits. Reading takes digits of either case.
-/

namespace SqlAccess.Text

/-- The last two hexadecimal digits of a number. -/
def hexPair (n : Nat) : List Char :=
  [Nat.digitChar (n / 16 % 16), Nat.digitChar (n % 16)]

def hexChars (bytes : List UInt8) : List Char :=
  bytes.flatMap fun b => hexPair b.toNat

def hexValue? (c : Char) : Option Nat :=
  if c.isDigit then some (c.toNat - '0'.toNat)
  else if 'a' ≤ c ∧ c ≤ 'f' then some (c.toNat - 'a'.toNat + 10)
  else if 'A' ≤ c ∧ c ≤ 'F' then some (c.toNat - 'A'.toNat + 10)
  else none

/-- The bytes that pairs of digits stand for. -/
def bytesOfHex? : List Char → Option (List UInt8)
  | [] => some []
  | [_] => none
  | a :: b :: rest => do
    let high ← hexValue? a
    let low ← hexValue? b
    let bytes ← bytesOfHex? rest
    return UInt8.ofNat (high * 16 + low) :: bytes

theorem length_of_bytesOfHex? {cs : List Char} {bytes : List UInt8}
    (h : bytesOfHex? cs = some bytes) : cs.length = 2 * bytes.length := by
  fun_induction bytesOfHex? cs generalizing bytes with
  | case1 => simp_all
  | case2 => simp at h
  | case3 a b rest ih =>
    simp only [Option.bind_eq_bind, Option.bind_eq_some_iff] at h
    obtain ⟨high, -, low, -, tail, ht, h⟩ := h
    have := ih ht
    simp only [pure, Option.some.injEq] at h
    subst h
    simp only [List.length_cons]
    omega

end SqlAccess.Text

/-!
# Numbers and texts as bytes

Numbers travel as big-endian two's complement, texts as UTF-8. Reading what was written gives a
number cut to its width (`ofBigEndian_bigEndian`, `ofSignedBigEndian_signedBigEndian`) and a text
as it was (`ofUtf8?_utf8`).
-/

namespace SqlAccess

/-- The last `width` base-256 digits of `n`, the leading one first. -/
def bigEndian : Nat → Nat → List UInt8
  | 0, _ => []
  | width + 1, n => bigEndian width (n / 256) ++ [UInt8.ofNat n]

/-- The number that bytes spell, the leading one first. -/
def ofBigEndian (bytes : List UInt8) : Nat :=
  bytes.foldl (fun n b => n * 256 + b.toNat) 0

/-- `n` in `width` bytes of two's complement. -/
def signedBigEndian (width : Nat) (n : Int) : List UInt8 :=
  bigEndian width (BitVec.ofInt (8 * width) n).toNat

/-- The integer that bytes of two's complement spell. -/
def ofSignedBigEndian (bytes : List UInt8) : Int :=
  (BitVec.ofNat (8 * bytes.length) (ofBigEndian bytes)).toInt

def utf8 (s : String) : List UInt8 :=
  s.toByteArray.data.toList

/-- The text whose UTF-8 the bytes are, if they are valid. -/
def ofUtf8? (bytes : List UInt8) : Option String :=
  String.fromUTF8? ⟨bytes.toArray⟩

/-! ## Widths -/

theorem length_bigEndian (width n : Nat) : (bigEndian width n).length = width := by
  induction width generalizing n with
  | zero => rfl
  | succ width ih => simp [bigEndian, ih]

theorem length_signedBigEndian (width : Nat) (n : Int) :
    (signedBigEndian width n).length = width :=
  length_bigEndian width _

/-! ## Reading what was written -/

theorem ofBigEndian_append_singleton (bytes : List UInt8) (b : UInt8) :
    ofBigEndian (bytes ++ [b]) = ofBigEndian bytes * 256 + b.toNat := by
  simp [ofBigEndian, List.foldl_append]

theorem ofBigEndian_bigEndian (width n : Nat) :
    ofBigEndian (bigEndian width n) = (BitVec.ofNat (8 * width) n).toNat := by
  rw [BitVec.toNat_ofNat]
  induction width generalizing n with
  | zero => simp [bigEndian, ofBigEndian, Nat.mod_one]
  | succ width ih =>
    have h : 2 ^ (8 * (width + 1)) = 256 * 2 ^ (8 * width) := by
      rw [Nat.mul_add, Nat.pow_add, Nat.mul_comm]
    rw [bigEndian, ofBigEndian_append_singleton, ih, h, Nat.mod_mul, Nat.add_comm, Nat.mul_comm]
    rfl

theorem ofSignedBigEndian_signedBigEndian (width : Nat) (n : Int) :
    ofSignedBigEndian (signedBigEndian width n) = (BitVec.ofInt (8 * width) n).toInt := by
  have h : BitVec.ofNat (8 * width) (ofBigEndian (signedBigEndian width n)) =
      BitVec.ofInt (8 * width) n := by
    rw [signedBigEndian, ofBigEndian_bigEndian, BitVec.ofNat_toNat, BitVec.ofNat_toNat]
    simp
  rw [ofSignedBigEndian, length_signedBigEndian, h]

theorem ofUtf8?_utf8 (s : String) : ofUtf8? (utf8 s) = some s := by
  have h : (⟨(utf8 s).toArray⟩ : ByteArray) = s.toByteArray := by simp [utf8]
  rw [ofUtf8?, h]
  exact dif_pos s.isValidUTF8

theorem utf8_inj {s t : String} : utf8 s = utf8 t ↔ s = t := by
  refine ⟨fun h => Option.some.inj ?_, congrArg utf8⟩
  rw [← ofUtf8?_utf8 s, h, ofUtf8?_utf8]

end SqlAccess

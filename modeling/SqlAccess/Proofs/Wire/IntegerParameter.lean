import Mathlib.Algebra.Ring.Int.Defs
import SqlAccess.Text.Digits
import SqlAccess.Wire.Decode
import SqlAccess.Wire.Encode

/-!
# Integers as parameters

An integer is sent in an integer type exactly if the type holds it, and then its bytes read back
as it; the text types take every integer as a decimal numeral. The width in which the value holds
the integer plays no part (`encode_integer`).
-/

namespace SqlAccess

/-- How an integer type lays out its numbers. -/
structure IntegerFormat where
  width : Nat
  signed : Bool
  deriving DecidableEq, Repr

namespace IntegerFormat

/-- The least number of the format. -/
def least (f : IntegerFormat) : Int :=
  if f.signed then -2 ^ (8 * f.width - 1) else 0

/-- The first number beyond the format. -/
def bound (f : IntegerFormat) : Int :=
  if f.signed then 2 ^ (8 * f.width - 1) else 2 ^ (8 * f.width)

/-- Whether `n` lies in the range of the format. -/
def Holds (f : IntegerFormat) (n : Int) : Prop :=
  f.least ≤ n ∧ n < f.bound

instance (f : IntegerFormat) (n : Int) : Decidable (f.Holds n) :=
  inferInstanceAs (Decidable (_ ∧ _))

/-- The number that bytes spell, if they have the width of the format. -/
def read? (f : IntegerFormat) (bytes : List UInt8) : Option Int :=
  if f.signed then ServerType.decodeSigned? f.width bytes
  else (ServerType.decodeUnsigned? f.width bytes).map Int.ofNat

theorem read?_signedBigEndian {f : IntegerFormat} {n : Int} (hw : 0 < f.width) (hn : f.Holds n) :
    f.read? (signedBigEndian f.width n) = some n := by
  obtain ⟨width, signed⟩ := f
  cases signed with
  | true =>
    obtain ⟨hlow, hhigh⟩ : -2 ^ (8 * width - 1) ≤ n ∧ n < 2 ^ (8 * width - 1) := hn
    have hvalue : ofSignedBigEndian (signedBigEndian width n) = n := by
      rw [ofSignedBigEndian_signedBigEndian]
      exact BitVec.toInt_ofInt_eq_self (Nat.mul_pos (by decide) hw) hlow hhigh
    simp [read?, ServerType.decodeSigned?, length_signedBigEndian, hvalue]
  | false =>
    obtain ⟨hlow, hhigh⟩ : 0 ≤ n ∧ n < 2 ^ (8 * width) := hn
    have hvalue : (ofBigEndian (signedBigEndian width n) : Int) = n := by
      rw [signedBigEndian, ofBigEndian_bigEndian, BitVec.ofNat_toNat, BitVec.setWidth_eq,
        BitVec.toNat_ofInt, Int.emod_eq_of_lt hlow (by exact_mod_cast hhigh)]
      exact Int.toNat_of_nonneg hlow
    simp [read?, ServerType.decodeUnsigned?, length_signedBigEndian, hvalue]

end IntegerFormat

namespace BuiltinType

def integerFormat? : BuiltinType → Option IntegerFormat
  | int2 => some ⟨2, true⟩
  | int4 => some ⟨4, true⟩
  | int8 => some ⟨8, true⟩
  | oid => some ⟨4, false⟩
  | _ => none

/-- The types that take an integer as a decimal numeral. -/
def numeralTypes : List BuiltinType := [text, varchar, bpchar]

def integerTypes : List BuiltinType := [int2, int4, int8, oid]

def floatTypes : List BuiltinType := [float4, float8]

theorem width_pos {type : BuiltinType} {f : IntegerFormat} (h : type.integerFormat? = some f) :
    0 < f.width := by
  cases type <;> cases h <;> decide

theorem encodeInt_of_integerFormat? {type : BuiltinType} {f : IntegerFormat}
    (h : type.integerFormat? = some f) (n : Int) :
    encodeInt n (.builtin type) =
      if f.Holds n then .ok (signedBigEndian f.width n) else .error .outOfRange := by
  have hrange : encodeInt n (.builtin type) = encodeWithin f.least (f.bound - 1) f.width n := by
    cases type <;> cases h <;> rfl
  have hholds : f.least ≤ n ∧ n ≤ f.bound - 1 ↔ f.Holds n := by
    rw [IntegerFormat.Holds, Int.le_sub_one_iff]
  rw [hrange]
  exact ite_congr (propext hholds) (fun _ => rfl) (fun _ => rfl)

end BuiltinType

namespace ServerType

/-- The types that an integer is sent in. -/
def takingIntegers : List ServerType :=
  (BuiltinType.integerTypes ++ BuiltinType.numeralTypes ++ BuiltinType.floatTypes).map .builtin

theorem encodeInt_of_notMem {t : ServerType} (h : t ∉ takingIntegers) (n : Int) :
    encodeInt n t = .error .wrongType := by
  cases t with
  | builtin type =>
    cases type with
    | int2 | int4 | int8 | oid | float4 | float8 | text | varchar | bpchar =>
      exact absurd (by decide) h
    | _ => rfl
  | extension name => rfl
  | enumeration name labels => rfl
  | domain name base => rfl

end ServerType

namespace Value

/-- The integer that a value holds in one of the three widths. -/
def integer? : Value → Option Int
  | int16 n => some n.toInt
  | int32 n => some n.toInt
  | int64 n => some n.toInt
  | _ => none

variable {v : Value} {n : Int}

/-- Whatever the width, an integer lies between the ends of 64 signed bits. -/
theorem integer?_mem_int64 (hv : v.integer? = some n) :
    Int64.minValue.toInt ≤ n ∧ n ≤ Int64.maxValue.toInt := by
  have hleast : Int64.minValue.toInt = -2 ^ 63 := rfl
  have hgreatest : Int64.maxValue.toInt = 2 ^ 63 - 1 := rfl
  cases v with
  | int16 m =>
    cases hv
    have hlow := m.le_toInt
    have hhigh := m.toInt_lt
    omega
  | int32 m =>
    cases hv
    have hlow := m.le_toInt
    have hhigh := m.toInt_lt
    omega
  | int64 m =>
    cases hv
    have hlow := m.le_toInt
    have hhigh := m.toInt_lt
    omega
  | _ => cases hv

theorem encode_of_integer? (hv : v.integer? = some n) (t : ServerType) :
    v.encode t = (encodeInt n t).map some := by
  cases v with
  | int16 n => cases hv; rfl
  | int32 n => cases hv; rfl
  | int64 n => cases hv; rfl
  | _ => cases hv

/-- An integer is sent exactly or refused: an integer type gets bytes that read back as it if it
holds it, and refuses it as out of range if not; a text type gets a numeral of it; of the other
types only the floats do not refuse its kind. All this depends on the number alone. -/
theorem encode_integer (hv : v.integer? = some n) :
    (∀ type f, type.integerFormat? = some f →
      (f.Holds n → ∃ bytes, v.encode (.builtin type) = .ok (some bytes) ∧
        f.read? bytes = some n) ∧
      (¬ f.Holds n → v.encode (.builtin type) = .error .outOfRange)) ∧
    (∀ type ∈ BuiltinType.numeralTypes, ∃ bytes numeral,
      v.encode (.builtin type) = .ok (some bytes) ∧ ofUtf8? bytes = some numeral ∧
        Text.intWithin? Int64.minValue.toInt Int64.maxValue.toInt numeral.toList = some n) ∧
    (∀ t ∉ ServerType.takingIntegers, v.encode t = .error .wrongType) ∧
    (∀ w : Value, w.integer? = some n → ∀ t, w.encode t = v.encode t) := by
  refine ⟨fun type f hf => ⟨fun hn => ?_, fun hn => ?_⟩, fun type htype => ?_, fun t ht => ?_,
    fun w hw t => ?_⟩
  · refine ⟨signedBigEndian f.width n, ?_,
      IntegerFormat.read?_signedBigEndian (BuiltinType.width_pos hf) hn⟩
    rw [encode_of_integer? hv, BuiltinType.encodeInt_of_integerFormat? hf, if_pos hn]
    rfl
  · rw [encode_of_integer? hv, BuiltinType.encodeInt_of_integerFormat? hf, if_neg hn]
    rfl
  · obtain ⟨hlow, hhigh⟩ := integer?_mem_int64 hv
    refine ⟨utf8 (toString n), toString n, ?_, ofUtf8?_utf8 _,
      Text.intWithin?_toString hlow hhigh⟩
    rw [encode_of_integer? hv]
    simp only [BuiltinType.numeralTypes, List.mem_cons, List.not_mem_nil, or_false] at htype
    obtain rfl | rfl | rfl := htype <;> rfl
  · rw [encode_of_integer? hv, ServerType.encodeInt_of_notMem ht]
    rfl
  · rw [encode_of_integer? hw, encode_of_integer? hv]

theorem encode_integer_least_int32 :
    let v : Value := .int64 (-2147483648)
    v.integer? = some (-2147483648) ∧
      (∃ bytes, v.encode (.builtin .int4) = .ok (some bytes) ∧
        ServerType.decodeSigned? 4 bytes = some (-2147483648)) ∧
      v.encode (.builtin .int2) = .error .outOfRange ∧
      v.encode (.builtin .oid) = .error .outOfRange ∧
      v.encode (.domain "year" (.builtin .int4)) = .error .wrongType ∧
      v.encode (.builtin .int4) = (int32 (-2147483648)).encode (.builtin .int4) := by
  intro v
  have hv : v.integer? = some (-2147483648) := rfl
  obtain ⟨hinteger, -, hother, hwidth⟩ := encode_integer hv
  exact ⟨hv, (hinteger .int4 _ rfl).1 (by decide), (hinteger .int2 _ rfl).2 (by decide),
    (hinteger .oid _ rfl).2 (by decide), hother _ (by decide), (hwidth (int32 _) rfl _).symm⟩

end Value

end SqlAccess

import SqlAccess.Json.Printer
import SqlAccess.Value.Target

/-!
# Documents as values

A document becomes a value and is read back from it. Scalars change their kind on the way in, so
coming back takes a reader that knows every kind they become: null, a Boolean, 64 signed bits and
a text (`read_ofJson`). An integer beyond 64 signed bits is held by its digits, which as a value
are the text of the same digits: it comes back as a string (`not_read_ofJson_beyond_int64`).
-/

namespace SqlAccess

namespace Json

/-- Whether the document is a float; those inside an array or an object do not count. -/
def isFloat : Json → Bool
  | .number (.float _ _) => true
  | _ => false

/-- Whether the document is an integer that 64 signed bits do not hold. -/
def isBeyondInt64 : Json → Bool
  | .number (.unsigned n) => 0x8000000000000000 ≤ n.toNat
  | _ => false

/-- The document that a value keeps of `document`: an integer that it cannot hold as a number
becomes a string of the same text. -/
def kept (document : Json) : Json :=
  if document.isBeyondInt64 then .string document.text else document

theorem text_unsigned (n : UInt64) : (number (.unsigned n)).text = Nat.repr n.toNat := by
  simp only [text, chars, numberText, String.ofList_toList]

end Json

namespace JsonNumber

theorem ofInt64_of_neg {n : Int64} (h : n < 0) : ofInt64 n = .negative n h :=
  dif_pos h

/-- Below the sign bit the signed reading of a word is the word. -/
theorem ofInt64_toInt64 {n : UInt64} (h : n.toNat < 0x8000000000000000) :
    ofInt64 n.toInt64 = .unsigned n := by
  have hvalue : n.toInt64.toInt = n.toNat := by
    rw [← UInt64.ofNat_toNat (x := n), UInt64.toInt64_ofNat', UInt64.ofNat_toNat]
    exact Int64.toInt_ofNat_of_lt h
  have hnonneg : ¬ n.toInt64 < 0 := by
    rw [Int64.lt_iff_toInt_lt, hvalue, Int64.toInt_zero]
    omega
  rw [ofInt64, dif_neg hnonneg, UInt64.toUInt64_toInt64]

end JsonNumber

namespace Value

/-- Every document but a float comes back from its value, an integer beyond 64 signed bits as the
string of its digits. -/
theorem read_ofJson {document : Json} (h : document.isFloat = false) :
    Target.read ⟨.json, false⟩ (ofJson document) = .ok (.json document.kept) := by
  cases document with
  | null => rfl
  | bool b => rfl
  | string s => rfl
  | array items => rfl
  | object members => rfl
  | number n =>
    cases n with
    | float x finite => cases h
    | negative n lt_zero =>
      have hread : ScalarType.json.read? (.int64 n) =
          some (.json (.number (.negative n lt_zero))) := by
        rw [ScalarType.read?, JsonNumber.ofInt64_of_neg lt_zero]
      simp [Target.read, ofJson, hread, Json.kept, Json.isBeyondInt64]
    | unsigned n =>
      by_cases hn : n.toNat < 0x8000000000000000
      · have hread : ScalarType.json.read? (.int64 n.toInt64) =
            some (.json (.number (.unsigned n))) := by
          rw [ScalarType.read?, JsonNumber.ofInt64_toInt64 hn]
        simp [Target.read, ofJson, hn, hread, Json.kept, Json.isBeyondInt64]
      · have hbeyond : 0x8000000000000000 ≤ n.toNat := Nat.le_of_not_lt hn
        simp [Target.read, ofJson, hn, ScalarType.read?, Json.kept, Json.isBeyondInt64, hbeyond,
          Json.text_unsigned]

theorem read_ofJson_nested_and_beyond_int64 :
    let half : JsonNumber := .float ⟨0x3fe0000000000000⟩ (by decide)
    let nested : Json :=
      .object [("rates", .array [.number half, .number (.unsigned 0xffffffffffffffff)])]
    let beyond : Json := .number (.unsigned 0xffffffffffffffff)
    nested.isFloat = false ∧ beyond.isFloat = false ∧
      Target.read ⟨.json, false⟩ (ofJson nested) = .ok (.json nested) ∧
      Target.read ⟨.json, false⟩ (ofJson beyond) =
        .ok (.json (.string "18446744073709551615")) := by
  intro half nested beyond
  have hbeyond : beyond.kept = .string "18446744073709551615" := by
    simp [beyond, Json.kept, Json.isBeyondInt64, Json.text_unsigned]
    rfl
  have hread : Target.read ⟨.json, false⟩ (ofJson beyond) = .ok (.json beyond.kept) :=
    read_ofJson rfl
  exact ⟨rfl, rfl, read_ofJson rfl, hbeyond ▸ hread⟩

/-- The first integer beyond 64 signed bits and the string of its digits are one value, so no
reader could give both of them back. -/
theorem not_read_ofJson_beyond_int64 :
    let number : Json := .number (.unsigned 0x8000000000000000)
    let digits : Json := .string "9223372036854775808"
    ofJson number = ofJson digits ∧
      Target.read ⟨.json, false⟩ (ofJson number) = .ok (.json digits) ∧
      Target.read ⟨.json, false⟩ (ofJson number) ≠ .ok (.json number) := by
  intro number digits
  have hnumber : ofJson number = .text "9223372036854775808" := by
    simp [number, ofJson]
    rfl
  refine ⟨hnumber, by rw [hnumber]; rfl, ?_⟩
  rw [hnumber]
  simp [Target.read, isNull, ScalarType.read?, number]

end Value

end SqlAccess

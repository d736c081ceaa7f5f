import SqlAccess.Proofs.Number.DecimalText
import SqlAccess.Wire.Encode

/-!
# Values as text parameters

What the types `text` and `varchar` get is the display text of the value. The one exception are
floats of 32 bits, which are widened before they are printed: they are sent as they are displayed
only if that text is read back in 64 bits too (`encode_eq_utf8_display_iff`).
-/

namespace SqlAccess

/-- The types that take the texts of values of every kind that has one to send. -/
def BuiltinType.plainTexts : List BuiltinType := [text, varchar]

namespace Value

variable {v : Value} {type : BuiltinType} {bytes : List UInt8}

/-- A float of 32 bits is sent with the digits of the float of 64 bits that it becomes. -/
theorem encodePresent_float32 (htype : type ∈ BuiltinType.plainTexts) (x : Binary32) :
    (float32 x).encodePresent (.builtin type) = .ok (utf8 x.toBinary64.display) := by
  simp only [BuiltinType.plainTexts, List.mem_cons, List.not_mem_nil, or_false] at htype
  obtain rfl | rfl := htype <;> rfl

/-- All other values are sent as they are displayed, if at all. -/
theorem eq_utf8_display_of_encodePresent (htype : type ∈ BuiltinType.plainTexts)
    (hv : ∀ x, v ≠ float32 x) (h : v.encodePresent (.builtin type) = .ok bytes) :
    bytes = utf8 v.display := by
  simp only [BuiltinType.plainTexts, List.mem_cons, List.not_mem_nil, or_false] at htype
  cases v with
  | float32 x => exact absurd rfl (hv x)
  | int16 n | int32 n | int64 n | float64 x | text s | uuid u | json document =>
    obtain rfl | rfl := htype <;> (cases h; rfl)
  | null | bool b | bytes b | timestamp p | timestamptz p | date d | time p =>
    obtain rfl | rfl := htype <;> cases h

/-- What a text type gets is the display text of the value, for floats of 32 bits exactly if that
text is read back as the float in 64 bits too. -/
theorem encode_eq_utf8_display_iff (htype : type ∈ BuiltinType.plainTexts)
    (h : v.encode (.builtin type) = .ok (some bytes)) :
    bytes = utf8 v.display ↔ ∀ x, v = float32 x → x.ReadsBackWide := by
  rw [encode_eq_some_iff] at h
  by_cases hv : ∃ x, v = float32 x
  · obtain ⟨x, rfl⟩ := hv
    rw [encodePresent_float32 htype] at h
    cases h
    simp [utf8_inj, display, Binary32.display_toBinary64_iff]
  · simp only [not_exists] at hv
    exact ⟨fun _ x hx => absurd hx (hv x),
      fun _ => eq_utf8_display_of_encodePresent htype hv h⟩

theorem encode_eq_utf8_display_iff_one_and_a_half :
    let v := float32 ⟨0x3fc00000⟩
    BuiltinType.text ∈ BuiltinType.plainTexts ∧
      v.encode (.builtin .text) = .ok (some [0x31, 0x2e, 0x35]) ∧
      [0x31, 0x2e, 0x35] = utf8 v.display := by
  intro v
  have htype : BuiltinType.text ∈ BuiltinType.plainTexts := by decide
  have hencode : v.encode (.builtin .text) = .ok (some [0x31, 0x2e, 0x35]) := by decide +kernel
  refine ⟨htype, hencode, (encode_eq_utf8_display_iff htype hencode).2 fun x hx => ?_⟩
  rw [← float32.inj hx]
  decide +kernel

/-- The shortest decimal of the float of 32 bits nearest to a tenth names another float in 64. -/
theorem not_encode_eq_utf8_display_tenth :
    ¬ ∀ (v : Value), v.isNull = false → ∀ type ∈ BuiltinType.plainTexts, ∀ bytes,
      v.encode (.builtin type) = .ok (some bytes) → bytes = utf8 v.display := by
  intro h
  have htenth := utf8_inj.1 (h (float32 ⟨0x3dcccccd⟩) rfl .text (by decide) _ rfl)
  exact absurd ((Binary32.display_toBinary64_iff ⟨0x3dcccccd⟩).1 htenth) (by decide +kernel)

end Value

end SqlAccess

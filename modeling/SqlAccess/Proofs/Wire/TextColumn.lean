import SqlAccess.Connection.Client

/-!
# Texts there and back

A text that was encoded for a type comes back from a column of that type, unless it travelled with
a version byte: the types that add one are written but not read. Of the types that hold nothing but
text, enumerations and `citext` are read as text, other domains over text are refused
(`decodeCell_text`).
-/

namespace SqlAccess

namespace ServerType

/-- Whether the cells of the type are read as text. -/
def readsText : ServerType → Bool
  | builtin .text | builtin .varchar | builtin .bpchar | builtin .name | builtin .unknown => true
  | builtin _ => false
  | t => t.isEnumeration || t.name == "citext"

/-- Whether a text for the type gets a version byte in front. The labels of an enumeration never
get one, whatever its name. -/
def addsVersion (t : ServerType) : Bool :=
  t.hasTextVersion && !t.isEnumeration

/-- Whether the type is text, if need be behind domains. -/
def isOverText : ServerType → Bool
  | builtin .text => true
  | domain _ base => base.isOverText
  | _ => false

def isTextDomain : ServerType → Bool
  | domain _ base => base.isOverText
  | _ => false

variable {t : ServerType}

theorem readsText_iff_of_named (hbuiltin : t.isBuiltin = false) :
    t.readsText = true ↔ t.isEnumeration = true ∨ t.name = "citext" := by
  cases t with
  | builtin type => cases hbuiltin
  | _ => simp [readsText]

theorem decoder?_of_readsText (h : t.readsText = true) : t.decoder? = some decodeText? := by
  cases t with
  | builtin type =>
    cases type with
    | text | varchar | bpchar | name | unknown => rfl
    | _ => cases h
  | enumeration name labels => rfl
  | extension name => exact if_pos h
  | domain name base => exact if_pos h

theorem decoder?_eq_none (hbuiltin : t.isBuiltin = false) (h : ¬ t.readsText = true) :
    t.decoder? = none := by
  cases t with
  | builtin type => cases hbuiltin
  | enumeration name labels => exact absurd rfl h
  | extension name => exact if_neg h
  | domain name base => exact if_neg h

theorem typeName_ne_citext (type : BuiltinType) : type.typeName ≠ "citext" := by
  cases type <;> decide

theorem isBuiltin_of_holdsText (h : t.isEnumeration ∨ t.isTextDomain ∨ t.name = "citext") :
    t.isBuiltin = false := by
  cases t with
  | builtin type =>
    obtain hlabels | hdomain | hname := h
    · cases hlabels
    · cases hdomain
    · exact absurd hname (typeName_ne_citext type)
  | _ => rfl

/-- No built-in type is called like one that adds a version byte. -/
theorem addsVersion_builtin (type : BuiltinType) : (builtin type).addsVersion = false := by
  cases type <;> decide

theorem isBuiltin_of_addsVersion (h : t.addsVersion = true) : t.isBuiltin = false := by
  cases t with
  | builtin type => simp [addsVersion_builtin] at h
  | _ => rfl

theorem not_readsText_of_addsVersion (h : t.addsVersion = true) : ¬ t.readsText = true := by
  obtain ⟨hversion, hlabels⟩ : t.hasTextVersion = true ∧ t.isEnumeration = false := by
    simpa [addsVersion] using h
  rw [readsText_iff_of_named (isBuiltin_of_addsVersion h)]
  rintro (henum | hname)
  · simp [hlabels] at henum
  · simp [hasTextVersion, hname] at hversion

end ServerType

/-! ## Texts for a type -/

section

variable {t : ServerType} {s : String}

theorem encodeString_builtin {type : BuiltinType} {bytes : List UInt8}
    (hjson : type ≠ .json) (hjsonb : type ≠ .jsonb) (huuid : type ≠ .uuid)
    (h : encodeString s (.builtin type) = .ok bytes) :
    (ServerType.builtin type).readsText = true ∧ bytes = utf8 s := by
  cases type with
  | text | varchar | bpchar | name | unknown => cases h; exact ⟨rfl, rfl⟩
  | json => exact absurd rfl hjson
  | jsonb => exact absurd rfl hjsonb
  | uuid => exact absurd rfl huuid
  | _ => cases h

/-- A type that is known by its name takes texts if it is called `citext` or adds a version. -/
theorem encodeString_named {bytes : List UInt8} (hbuiltin : t.isBuiltin = false)
    (hlabels : t.isEnumeration = false) (h : encodeString s t = .ok bytes) :
    (t.hasTextVersion = true ∧ bytes = versionByte :: utf8 s) ∨
      (t.hasTextVersion = false ∧ t.name = "citext" ∧ bytes = utf8 s) := by
  have hencode : encodeString s t =
      if t.name == "citext" || t.hasTextVersion then .ok (encodeText s t)
      else .error .wrongType := by
    cases t with
    | builtin type => cases hbuiltin
    | enumeration name labels => cases hlabels
    | extension name => rfl
    | domain name base => rfl
  rw [hencode] at h
  split at h
  · next haccepts =>
    obtain rfl : encodeText s t = bytes := Except.ok.inj h
    cases hversion : t.hasTextVersion with
    | true => exact .inl ⟨rfl, by simp [encodeText, hversion]⟩
    | false =>
      refine .inr ⟨rfl, ?_, by simp [encodeText, hversion]⟩
      simpa [hversion] using haccepts
  · cases h

/-- A text is encoded for the types whose columns are read as text, and for those that add a
version byte. -/
theorem encodeString_eq_ok {bytes : List UInt8} (hjson : t ≠ .builtin .json)
    (hjsonb : t ≠ .builtin .jsonb) (huuid : t ≠ .builtin .uuid)
    (h : encodeString s t = .ok bytes) :
    (t.addsVersion = true ∧ bytes = versionByte :: utf8 s) ∨
      (t.addsVersion = false ∧ t.readsText = true ∧ bytes = utf8 s) := by
  cases hbuiltin : t.isBuiltin with
  | true =>
    cases t with
    | builtin type =>
      exact .inr ⟨ServerType.addsVersion_builtin type, encodeString_builtin (by simpa using hjson)
        (by simpa using hjsonb) (by simpa using huuid) h⟩
    | _ => cases hbuiltin
  | false =>
    cases hlabels : t.isEnumeration with
    | true =>
      cases t with
      | enumeration name labels =>
        exact .inr ⟨by simp [ServerType.addsVersion, hlabels], rfl, (Except.ok.inj h).symm⟩
      | _ => cases hlabels
    | false =>
      obtain ⟨hversion, rfl⟩ | ⟨hversion, hname, rfl⟩ := encodeString_named hbuiltin hlabels h
      · exact .inl ⟨by simp [ServerType.addsVersion, hversion, hlabels], rfl⟩
      · exact .inr ⟨by simp [ServerType.addsVersion, hversion],
          (ServerType.readsText_iff_of_named hbuiltin).2 (.inr hname), rfl⟩

end

/-! ## Columns of a type -/

section

variable {t : ServerType} (column : String) (i : Nat) (s : String)

theorem decodeCell_utf8 (h : t.readsText = true) :
    decodeCell column t i (some (utf8 s)) = .ok (.text s) := by
  simp [decodeCell, ServerType.decoder?_of_readsText h, ServerType.decodeText?, ofUtf8?_utf8]

theorem decodeCell_unsupported (hbuiltin : t.isBuiltin = false) (h : ¬ t.readsText = true)
    (cell : Option (List UInt8)) :
    decodeCell column t i cell = .error (.unsupportedColumn column t) := by
  simp [decodeCell, ServerType.decoder?_eq_none hbuiltin h]

/-- What was encoded for a type other than a document or a UUID comes back from a column of it
unless the type adds a version byte, whose columns are not supported. Of the enumerations, the
domains over text and `citext`, a column of any but a domain of another name than that is read as
text, and a column of such a domain is not supported. -/
theorem decodeCell_text :
    (∀ t bytes, t ≠ .builtin .json → t ≠ .builtin .jsonb → t ≠ .builtin .uuid →
      (Value.text s).encode t = .ok (some bytes) →
        decodeCell column t i (some bytes) =
          if t.addsVersion then .error (.unsupportedColumn column t) else .ok (.text s)) ∧
    (∀ t : ServerType, t.isEnumeration ∨ t.isTextDomain ∨ t.name = "citext" →
      decodeCell column t i (some (utf8 s)) =
        if t.isEnumeration ∨ t.name = "citext" then .ok (.text s)
        else .error (.unsupportedColumn column t)) := by
  refine ⟨fun t bytes hjson hjsonb huuid h => ?_, fun t ht => ?_⟩
  · obtain ⟨hversion, rfl⟩ | ⟨hversion, hreads, rfl⟩ :=
      encodeString_eq_ok hjson hjsonb huuid (Value.encode_eq_some_iff.1 h)
    · rw [if_pos hversion]
      exact decodeCell_unsupported column i (ServerType.isBuiltin_of_addsVersion hversion)
        (ServerType.not_readsText_of_addsVersion hversion) _
    · rw [hversion]
      exact decodeCell_utf8 column i s hreads
  · have hbuiltin := ServerType.isBuiltin_of_holdsText ht
    have hreads := ServerType.readsText_iff_of_named hbuiltin
    split
    · next h => exact decodeCell_utf8 column i s (hreads.2 h)
    · next h => exact decodeCell_unsupported column i hbuiltin (fun hr => h (hreads.1 hr)) _

end

theorem decodeCell_text_odd_names :
    let labels : ServerType := .enumeration "ltree" ["sad", "happy"]
    let folded : ServerType := .domain "citext" (.builtin .text)
    (Value.text "sad").encode labels = .ok (some (utf8 "sad")) ∧
      decodeCell "mood" labels 0 (some (utf8 "sad")) = .ok (.text "sad") ∧
      folded.isTextDomain = true ∧
      decodeCell "name" folded 1 (some (utf8 "Ann")) = .ok (.text "Ann") := by
  intro labels folded
  have hwritten : (Value.text "sad").encode labels = .ok (some (utf8 "sad")) := rfl
  exact ⟨hwritten,
    (decodeCell_text "mood" 0 "sad").1 labels _ (by decide) (by decide) (by decide) hwritten, rfl,
    (decodeCell_text "name" 1 "Ann").2 folded (.inr (.inl rfl))⟩

/-- A label path is sent, but a column of label paths is refused; so is one of a domain over
text. -/
theorem not_decodeCell_text_path_and_domain :
    let path : ServerType := .extension "ltree"
    let address : ServerType := .domain "email" (.builtin .text)
    (Value.text "a.b").encode path = .ok (some [1, 0x61, 0x2e, 0x62]) ∧
      decodeCell "path" path 0 (some [1, 0x61, 0x2e, 0x62]) =
        .error (.decode "path" "unsupported column type ltree") ∧
      address.isTextDomain = true ∧
      decodeCell "address" address 0 (some (utf8 "a@b")) =
        .error (.decode "address" "unsupported column type email") :=
  ⟨rfl, rfl, rfl, rfl⟩

end SqlAccess

import Mathlib.Data.List.Basic
import SqlAccess.Mapping.Declaration

/-!
# What declarations declare

Of several attributes that name a field, or that name the rule of a record, the last one counts; a
mark counts wherever it stands. For a declaration that parameters can be bound from, both mappings
are therefore lists over its fields, and both take the name of a field from `nameOf`.
-/

namespace SqlAccess

/-! ## Successful loops -/

section Loops

variable {ε α β : Type}

theorem mapM_eq_ok {f : α → Except ε β} {g : α → β} {l : List α} (h : ∀ a ∈ l, f a = .ok (g a)) :
    l.mapM f = .ok (l.map g) := by
  induction l with
  | nil => rfl
  | cons a l ih =>
    rw [List.mapM_cons, h a List.mem_cons_self, ih fun b hb => h b (List.mem_cons_of_mem a hb)]
    rfl

theorem exists_ok_of_mapM {f : α → Except ε β} {l : List α} {bs : List β} (h : l.mapM f = .ok bs) :
    ∀ a ∈ l, ∃ b, f a = .ok b := by
  induction l generalizing bs with
  | nil => simp
  | cons a l ih =>
    rw [List.mapM_cons] at h
    cases ha : f a with
    | error e => simp [ha, bind, Except.bind] at h
    | ok b =>
      cases hl : l.mapM f with
      | error e => simp [ha, hl, bind, Except.bind] at h
      | ok bs => simpa [ha] using ih hl

theorem exists_ok_of_foldlM {f : β → α → Except ε β} {l : List α} {b b' : β}
    (h : l.foldlM f b = .ok b') : ∀ a ∈ l, ∃ c c', f c a = .ok c' := by
  induction l generalizing b with
  | nil => simp
  | cons a l ih =>
    rw [List.foldlM_cons] at h
    cases ha : f b a with
    | error e => simp [ha, bind, Except.bind] at h
    | ok c =>
      rw [ha] at h
      rintro a' (_ | ⟨_, ha'⟩)
      · exact ⟨b, c, ha⟩
      · exact ih h a' ha'

end Loops

/-! ## Attributes of fields -/

namespace Attribute

/-- The name that an attribute gives a field. -/
def fieldName? : Attribute → Option String
  | .text "column" name | .text "rename" name => some name
  | _ => none

/-- Whether a field can have the attribute. -/
def isOfField (a : Attribute) : Bool :=
  a.fieldName?.isSome || a == .word "skip" || a == .word "default"

/-- The naming rule that an attribute gives a record. -/
def namingRule? : Attribute → Option NamingRule
  | .text "rename_all" name => NamingRule.ofName? name
  | _ => none

end Attribute

theorem readFieldAttribute_name {a : Attribute} {name : String} (h : a.fieldName? = some name)
    (o : FieldOptions) : readFieldAttribute o a = .ok { o with explicitName := some name } := by
  unfold Attribute.fieldName? at h
  split at h
  · cases h; rfl
  · cases h; rfl
  · cases h

theorem isOfField_of_readFieldAttribute {a : Attribute} {o o' : FieldOptions}
    (h : readFieldAttribute o a = .ok o') : a.isOfField = true := by
  unfold readFieldAttribute at h
  split at h
  · rfl
  · rfl
  · cases h
  · cases h
  · rfl
  · rfl
  · cases h

theorem foldlM_readFieldAttribute {as : List Attribute} (h : ∀ a ∈ as, a.isOfField = true)
    (o : FieldOptions) :
    as.foldlM readFieldAttribute o = .ok
      ⟨((as.filterMap Attribute.fieldName?).getLast?).or o.explicitName,
        o.hasDefault || as.contains (.word "default"),
        o.isSkipped || as.contains (.word "skip")⟩ := by
  induction as generalizing o with
  | nil => simp; rfl
  | cons a as ih =>
    have ih := ih fun b hb => h b (List.mem_cons_of_mem a hb)
    have ha := h a List.mem_cons_self
    simp only [Attribute.isOfField, Bool.or_eq_true, beq_iff_eq] at ha
    rw [List.foldlM_cons]
    obtain (ha | rfl) | rfl := ha
    · obtain ⟨name, hname⟩ := Option.isSome_iff_exists.1 ha
      have hskip : a ≠ .word "skip" := by
        rintro rfl
        cases hname
      have hdefault : a ≠ .word "default" := by
        rintro rfl
        cases hname
      rw [readFieldAttribute_name hname]
      refine (ih _).trans ?_
      rw [List.filterMap_cons_some hname, List.getLast?_cons]
      cases (as.filterMap Attribute.fieldName?).getLast? <;>
        simp [hskip.symm, hdefault.symm]
    · refine (ih _).trans ?_
      simp [Attribute.fieldName?]
    · refine (ih _).trans ?_
      simp [Attribute.fieldName?]

/-! ## Fields -/

namespace FieldDeclaration

/-- The last name that the attributes give the field. -/
def explicitName? (f : FieldDeclaration) : Option String :=
  (f.attributes.filterMap Attribute.fieldName?).getLast?

def isSkipped (f : FieldDeclaration) : Bool :=
  f.attributes.contains (.word "skip")

def hasDefault (f : FieldDeclaration) : Bool :=
  f.attributes.contains (.word "default")

/-- The name of the field on the server: the one that its attributes give it, else its own as the
record renames its fields. -/
def nameBy (rename : Option (String → String)) (f : FieldDeclaration) : String :=
  f.explicitName?.getD (rename.getD id f.plainName)

/-- The field has attributes of fields only, and is marked to have a default only if it is skipped
as well. -/
structure IsBindable (f : FieldDeclaration) : Prop where
  known : ∀ a ∈ f.attributes, a.isOfField = true
  default_skipped : f.hasDefault = true → f.isSkipped = true

instance (f : FieldDeclaration) : Decidable f.IsBindable :=
  decidable_of_iff
    ((∀ a ∈ f.attributes, a.isOfField = true) ∧ (f.hasDefault = true → f.isSkipped = true))
    ⟨fun h => ⟨h.1, h.2⟩, fun h => ⟨h.known, h.default_skipped⟩⟩

variable {f : FieldDeclaration} {rename : Option (String → String)}

theorem options_eq (h : ∀ a ∈ f.attributes, a.isOfField = true) :
    f.options = .ok ⟨f.explicitName?, f.hasDefault, f.isSkipped⟩ := by
  rw [options, foldlM_readFieldAttribute h]
  simp [FieldOptions.none, explicitName?, hasDefault, isSkipped]

theorem mappedName_eq (o : FieldOptions) (rename : Option (String → String)) :
    f.mappedName o rename = o.explicitName.getD (rename.getD id f.plainName) := by
  obtain ⟨_ | name, _, _⟩ := o <;> cases rename <;> rfl

theorem IsBindable.hasDefault_eq_false (h : f.IsBindable) (hskip : f.isSkipped = false) :
    f.hasDefault = false := by
  rw [← Bool.not_eq_true]
  intro hdefault
  simp [h.default_skipped hdefault] at hskip

theorem rowField_eq (h : f.IsBindable) (rename : Option (String → String)) :
    f.rowField rename = .ok (if f.isSkipped then ⟨f.name, "", .skipped⟩
      else ⟨f.name, f.nameBy rename, .required⟩) := by
  rw [rowField, options_eq h.known]
  cases hskip : f.isSkipped with
  | true => rfl
  | false =>
    rw [h.hasDefault_eq_false hskip]
    simp [mappedName_eq, nameBy, bind, Except.bind, pure, Except.pure]

theorem parameterField_eq (h : f.IsBindable) (rename : Option (String → String)) :
    f.parameterField rename =
      .ok (if f.isSkipped then none else some ⟨f.name, f.nameBy rename⟩) := by
  rw [parameterField, options_eq h.known]
  cases hskip : f.isSkipped with
  | true => rfl
  | false =>
    rw [h.hasDefault_eq_false hskip]
    simp [mappedName_eq, nameBy, bind, Except.bind, pure, Except.pure]

theorem isBindable_of_parameterField {p : Option ParameterField}
    (h : f.parameterField rename = .ok p) : f.IsBindable := by
  have hknown : ∀ a ∈ f.attributes, a.isOfField = true := by
    intro a ha
    cases ho : f.options with
    | error e => simp [parameterField, ho, bind, Except.bind] at h
    | ok o =>
      obtain ⟨c, c', hread⟩ := exists_ok_of_foldlM ho a ha
      exact isOfField_of_readFieldAttribute hread
  refine ⟨hknown, fun hdefault => ?_⟩
  by_contra hskip
  simp [parameterField, options_eq hknown, hdefault, hskip, bind, Except.bind, throw,
    throwThe, MonadExceptOf.throw] at h

end FieldDeclaration

/-! ## Records -/

theorem readRecordAttribute_eq {a : Attribute} {rule : NamingRule} (h : a.namingRule? = some rule)
    (old : Option NamingRule) : readRecordAttribute old a = .ok (some rule) := by
  unfold Attribute.namingRule? at h
  split at h
  · next name => simp [readRecordAttribute, h]
  · cases h

theorem isSome_namingRule?_of_readRecordAttribute {a : Attribute} {old new : Option NamingRule}
    (h : readRecordAttribute old a = .ok new) : a.namingRule?.isSome = true := by
  unfold readRecordAttribute at h
  split at h
  · next name =>
    split at h
    · next rule hrule => simp [Attribute.namingRule?, hrule]
    · cases h
  · cases h
  · cases h

theorem foldlM_readRecordAttribute {as : List Attribute}
    (h : ∀ a ∈ as, a.namingRule?.isSome = true) (rule : Option NamingRule) :
    as.foldlM readRecordAttribute rule =
      .ok (((as.filterMap Attribute.namingRule?).getLast?).or rule) := by
  induction as generalizing rule with
  | nil => rfl
  | cons a as ih =>
    obtain ⟨new, hnew⟩ := Option.isSome_iff_exists.1 (h a List.mem_cons_self)
    rw [List.foldlM_cons, readRecordAttribute_eq hnew]
    refine (ih (fun b hb => h b (List.mem_cons_of_mem a hb)) _).trans ?_
    rw [List.filterMap_cons_some hnew, List.getLast?_cons]
    cases (as.filterMap Attribute.namingRule?).getLast? <;> rfl

namespace RecordDeclaration

/-- The last naming rule that the attributes give the record. -/
def rule? (d : RecordDeclaration) : Option NamingRule :=
  (d.attributes.filterMap Attribute.namingRule?).getLast?

/-- The declaration is one of named fields that rows are read into and parameters bound from. -/
structure IsBindable (d : RecordDeclaration) : Prop where
  shape : d.shape = .namedFields
  known : ∀ a ∈ d.attributes, a.namingRule?.isSome = true
  fields : ∀ f ∈ d.fields, f.IsBindable

instance (d : RecordDeclaration) : Decidable d.IsBindable :=
  decidable_of_iff
    (d.shape = .namedFields ∧ (∀ a ∈ d.attributes, a.namingRule?.isSome = true) ∧
      ∀ f ∈ d.fields, f.IsBindable)
    ⟨fun h => ⟨h.1, h.2.1, h.2.2⟩, fun h => ⟨h.shape, h.known, h.fields⟩⟩

variable (convert : NamingRule → String → String) (d : RecordDeclaration)

/-- The name of a field on the server. -/
def nameOf (f : FieldDeclaration) : String :=
  f.nameBy (d.rule?.map convert)

/-- The fields that are not skipped. -/
def boundFields : List FieldDeclaration :=
  d.fields.filter fun f => !f.isSkipped

variable {convert d}

theorem namingRule_eq (h : d.IsBindable) (purpose : Purpose) :
    d.namingRule purpose = .ok d.rule? := by
  rw [namingRule, foldlM_readRecordAttribute h.known, h.shape, rule?, Option.or_none]
  rfl

theorem shape_and_known_of_namingRule {purpose : Purpose} {rule : Option NamingRule}
    (h : d.namingRule purpose = .ok rule) :
    d.shape = .namedFields ∧ ∀ a ∈ d.attributes, a.namingRule?.isSome = true := by
  cases hfold : d.attributes.foldlM readRecordAttribute none with
  | error e => simp [namingRule, hfold, bind, Except.bind] at h
  | ok rule' =>
    refine ⟨?_, fun a ha => ?_⟩
    · cases hshape : d.shape <;>
        simp [namingRule, hfold, hshape, bind, Except.bind, throw, throwThe,
          MonadExceptOf.throw] at h ⊢
    · obtain ⟨old, new, hread⟩ := exists_ok_of_foldlM hfold a ha
      exact isSome_namingRule?_of_readRecordAttribute hread

/-- How a row is read into a record: the fields that are not skipped from the columns of their
names. -/
theorem rowFieldsBy_eq (h : d.IsBindable) :
    d.rowFieldsBy convert = .ok (d.fields.map fun f =>
      if f.isSkipped then ⟨f.name, "", .skipped⟩ else ⟨f.name, d.nameOf convert f, .required⟩) := by
  rw [rowFieldsBy, namingRule_eq h]
  exact mapM_eq_ok fun f hf => FieldDeclaration.rowField_eq (h.fields f hf) _

/-- What is bound from the fields of a record: those that are not skipped, under their names. -/
theorem parameterFieldsBy_eq (h : d.IsBindable) :
    d.parameterFieldsBy convert =
      .ok (d.boundFields.map fun f => ⟨f.name, d.nameOf convert f⟩) := by
  rw [parameterFieldsBy, namingRule_eq h]
  have hfields := mapM_eq_ok fun f hf =>
    FieldDeclaration.parameterField_eq (h.fields f hf) (d.rule?.map convert)
  simp only [bind, Except.bind, hfields, pure, Except.pure, boundFields, Except.ok.injEq]
  clear hfields
  induction d.fields with
  | nil => rfl
  | cons f fs ih => cases hskip : f.isSkipped <;> simpa [hskip, nameOf] using ih

/-- Parameters are bound from the declarations that are bindable, and from no others. -/
theorem isBindable_iff (convert : NamingRule → String → String) (d : RecordDeclaration) :
    d.IsBindable ↔ ∃ fields, d.parameterFieldsBy convert = .ok fields := by
  refine ⟨fun h => ⟨_, parameterFieldsBy_eq h⟩, fun ⟨fields, h⟩ => ?_⟩
  cases hrule : d.namingRule .bindParameters with
  | error e => simp [parameterFieldsBy, hrule, bind, Except.bind] at h
  | ok rule =>
    obtain ⟨hshape, hknown⟩ := shape_and_known_of_namingRule hrule
    refine ⟨hshape, hknown, fun f hf => ?_⟩
    cases hfields : d.fields.mapM (·.parameterField (rule.map convert)) with
    | error e => simp [parameterFieldsBy, hrule, hfields, bind, Except.bind] at h
    | ok ps =>
      obtain ⟨p, hp⟩ := exists_ok_of_mapM hfields f hf
      exact FieldDeclaration.isBindable_of_parameterField hp

end RecordDeclaration

end SqlAccess

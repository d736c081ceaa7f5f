import Mathlib.Data.List.Nodup
import SqlAccess.Mapping.Record
import SqlAccess.Proofs.Mapping.Carrier
import SqlAccess.Proofs.Mapping.Declared

/-!
# Records there and back

A record is bound under the names under which it is read: a row that holds the arguments of a
record, in any order and among other columns, is mapped onto the same record. It is enough for the
names of the fields to differ at all: where two of them differ in case alone, each field still finds
its own column (`Row.Holds.readNamed`).
-/

namespace SqlAccess

/-! ## Rows that hold arguments -/

/-- The row holds the arguments: its columns are their names with their values, in any order, and
others whose names are not among theirs. -/
def Row.Holds (row : Row) (args : NamedArguments) : Prop :=
  ∃ extra : NamedArguments, (row.columns.zip (row.values.map .scalar)).Perm (args ++ extra) ∧
    ∀ e ∈ extra, e.1 ∉ args.map (·.1)

namespace Row

variable {row : Row} {args : NamedArguments} {name : String} {v w : Value} {t : Target} {i : Nat}

theorem read_of_value (hv : row.value i = .ok v) (hw : t.read v = .ok w) :
    row.read i t = .ok w := by
  simp [read, hv, hw, bind, Except.bind, pure, Except.pure]

theorem readNamed_of_ordinal (hi : row.ordinal? name = some i) :
    row.readNamed name t = row.read i t := by
  simp [readNamed, requireOrdinal, hi, bind, Except.bind]

/-- A column whose name is spelled exactly so is preferred to those that differ in case. -/
theorem exists_ordinal_of_mem (h : name ∈ row.columns) :
    ∃ i, row.ordinal? name = some i ∧ row.columns[i]? = some name := by
  obtain ⟨i, hi⟩ := Option.isSome_iff_exists.1 (List.isSome_idxOf?.2 h)
  obtain ⟨hlt, hname, -⟩ := List.idxOf?_eq_some_iff.1 hi
  refine ⟨i, ?_, List.getElem?_eq_some_iff.2 ⟨hlt, hname⟩⟩
  rw [ordinal?, findColumn?, hi]

/-- Of the arguments that a row holds, each is found under its name. -/
theorem Holds.readNamed (h : row.Holds args) (hnames : (args.map (·.1)).Nodup)
    (hmem : (name, .scalar v) ∈ args) (hw : t.read v = .ok w) :
    row.readNamed name t = .ok w := by
  obtain ⟨extra, hperm, hextra⟩ := h
  have hcolumn : name ∈ row.columns :=
    (List.of_mem_zip (hperm.mem_iff.2 (List.mem_append_left extra hmem))).1
  obtain ⟨i, hi, hname⟩ := exists_ordinal_of_mem hcolumn
  obtain ⟨u, hu⟩ : ∃ u, row.values[i]? = some u := by
    have hlt := (List.getElem?_eq_some_iff.1 hname).1
    exact ⟨_, List.getElem?_eq_getElem (row.width_eq ▸ hlt)⟩
  have hzip : (name, Argument.scalar u) ∈ row.columns.zip (row.values.map .scalar) :=
    List.mem_of_getElem? (List.getElem?_zip_eq_some.2 ⟨hname, by simp [hu]⟩)
  -- The column cannot be one of the others, and no second argument has its name.
  have hu_eq : u = v := by
    rcases List.mem_append.1 (hperm.mem_iff.1 hzip) with hin | hin
    · have := List.inj_on_of_nodup_map hnames hin hmem rfl
      simpa using this
    · exact absurd (List.mem_map_of_mem (f := (·.1)) hmem) (hextra _ hin)
  subst hu_eq
  have hv : row.value i = .ok u := by rw [value, hu]
  rw [readNamed_of_ordinal hi, read_of_value hv hw]

end Row

/-! ## Records -/

namespace RecordDeclaration

variable (convert : NamingRule → String → String) (d : RecordDeclaration) (target : String → Target)

/-- The arguments of a record with the members `x`: the fields that are not skipped, under their
names. -/
def boundArguments (x : (field : String) → (target field).Carrier) : NamedArguments :=
  d.boundFields.map fun f => (d.nameOf convert f, .scalar (toValue (x f.name)))

/-- How a field is read from a row: from the column of its name, unless it is skipped. -/
def recordField (f : FieldDeclaration) : RecordField :=
  if f.isSkipped then ⟨⟨f.name, "", .skipped⟩, target f.name⟩
  else ⟨⟨f.name, d.nameOf convert f, .required⟩, target f.name⟩

/-- The value of a field of the record with the members `x`: that of its member, unless it is
skipped. -/
def fieldValue (x : (field : String) → (target field).Carrier) (f : FieldDeclaration) : Value :=
  if f.isSkipped then (target f.name).default else toValue (x f.name)

/-- The fields of the record with the members `x`. -/
def fieldValues (x : (field : String) → (target field).Carrier) : List (String × Value) :=
  d.fields.map fun f => (f.name, fieldValue target x f)

variable {convert d target}

theorem argumentsBy_eq (h : d.IsBindable)
    (hplain : ∀ f ∈ d.boundFields, (target f.name).scalar.isPlain)
    (x : (field : String) → (target field).Carrier) :
    d.argumentsBy convert (fun field => toArgument (x field)) =
      .ok (d.boundArguments convert target x) := by
  rw [argumentsBy, parameterFieldsBy_eq h]
  refine congrArg Except.ok ((List.map_map ..).trans (List.map_congr_left fun f hf => ?_))
  exact congrArg (Prod.mk _) (Target.toArgument_eq (hplain f hf) (x f.name))

theorem mappingBy_eq (h : d.IsBindable) :
    d.mappingBy convert target = .ok (.record (d.fields.map (d.recordField convert target))) := by
  rw [mappingBy, rowFieldsBy_eq h]
  refine congrArg (fun fields => Except.ok (RowMapping.record fields))
    ((List.map_map ..).trans (List.map_congr_left fun f _ => ?_))
  cases hskip : f.isSkipped <;> simp [hskip, recordField]

theorem recordField_field (f : FieldDeclaration) :
    (d.recordField convert target f).field = f.name := by
  unfold recordField
  split <;> rfl

/-- Where a row holds what the record is bound as, each field reads its own value. -/
theorem read_recordField {row : Row} {x : (field : String) → (target field).Carrier}
    (hplain : ∀ f ∈ d.boundFields, (target f.name).scalar.isPlain)
    (hnames : (d.boundFields.map (d.nameOf convert)).Nodup)
    (hrow : row.Holds (d.boundArguments convert target x)) {f : FieldDeclaration}
    (hf : f ∈ d.fields) :
    (d.recordField convert target f).read row = .ok (fieldValue target x f) := by
  cases hskip : f.isSkipped with
  | true => simp [recordField, RecordField.read, fieldValue, hskip]
  | false =>
    have hbound : f ∈ d.boundFields := List.mem_filter.2 ⟨hf, by rw [hskip]; rfl⟩
    have hnames' : ((d.boundArguments convert target x).map (·.1)).Nodup := by
      rwa [boundArguments, List.map_map]
    have hread := hrow.readNamed hnames' (List.mem_map_of_mem hbound)
      (Target.read_toValue (hplain f hbound) (x f.name))
    simpa [recordField, RecordField.read, fieldValue, hskip] using hread

theorem fieldValues_inj (hplain : ∀ f ∈ d.boundFields, (target f.name).scalar.isPlain)
    {x y : (field : String) → (target field).Carrier}
    (h : d.fieldValues target y = d.fieldValues target x) :
    ∀ f ∈ d.boundFields, y f.name = x f.name := by
  intro f hf
  obtain ⟨hmem, hskip⟩ := List.mem_filter.1 hf
  have hvalue := congrArg Prod.snd (List.map_inj_left.1 h f hmem)
  have hskip : f.isSkipped = false := by simpa using hskip
  simp only [fieldValue, hskip, Bool.false_eq_true, if_false] at hvalue
  exact Target.toValue_injective (hplain f hf) hvalue

/-- A row that holds what a record is bound as is mapped onto the same record, with the fields that
are skipped at their defaults. -/
theorem apply_mapping_of_holds (convert : NamingRule → String → String) (d : RecordDeclaration)
    (target : String → Target) (h : d.IsBindable)
    (hplain : ∀ f ∈ d.boundFields, (target f.name).scalar.isPlain)
    (hnames : (d.boundFields.map (d.nameOf convert)).Nodup)
    (x : (field : String) → (target field).Carrier) :
    ∃ args mapping,
      d.argumentsBy convert (fun field => toArgument (x field)) = .ok args ∧
      d.mappingBy convert target = .ok mapping ∧
      (∀ row : Row, row.Holds args → ∃ fields,
        mapping.apply row = .ok (.record fields) ∧
        fields.map (fun f => (f.1.field, f.2)) = d.fieldValues target x) ∧
      ∀ y, d.fieldValues target y = d.fieldValues target x →
        ∀ f ∈ d.boundFields, y f.name = x f.name := by
  refine ⟨_, _, argumentsBy_eq h hplain x, mappingBy_eq h, fun row hrow => ?_,
    fun y => fieldValues_inj hplain⟩
  have hread : (d.fields.map (d.recordField convert target)).mapM
      (fun f => (f, ·) <$> f.read row) =
      .ok (d.fields.map fun f => (d.recordField convert target f, fieldValue target x f)) := by
    rw [List.mapM_map]
    refine mapM_eq_ok fun f hf => ?_
    rw [Function.comp_apply, read_recordField hplain hnames hrow hf]
    rfl
  refine ⟨_, congrArg (Mapped.record <$> ·) hread, ?_⟩
  simp [fieldValues, recordField_field]

theorem camel_case_record_read :
    let d : RecordDeclaration := ⟨.namedFields, [.text "rename_all" "camelCase"],
      [⟨"user_id", []⟩, ⟨"nick", [.text "column" "USERID"]⟩, ⟨"cache", [.word "skip"]⟩]⟩
    let target : String → Target := fun field =>
      if field = "user_id" then ⟨.int32, false⟩ else ⟨.text, true⟩
    let row : Row := ⟨["USERID", "note", "userId"], [.text "ann", .null, .int32 7], rfl⟩
    ∃ mapping fields, d.mapping target = .ok mapping ∧
      mapping.apply row = .ok (.record fields) ∧
      fields.map (fun f => (f.1.field, f.2)) =
        [("user_id", .int32 7), ("nick", .text "ann"), ("cache", .null)] := by
  intro d target row
  have hbindable : d.IsBindable := by decide
  have hbound : d.boundFields = [⟨"user_id", []⟩, ⟨"nick", [.text "column" "USERID"]⟩] := by decide
  have hnames : d.boundFields.map (d.nameOf NamingRule.apply) = ["userId", "USERID"] := by
    decide +kernel
  let x : (field : String) → (target field).Carrier := fun field =>
    if h : field = "user_id" then by simp only [target, if_pos h]; exact (7 : Int32)
    else by simp only [target, if_neg h]; exact some "ann"
  obtain ⟨args, mapping, hargs, hmapping, hread, -⟩ :=
    apply_mapping_of_holds NamingRule.apply d target hbindable (by decide)
      (hnames ▸ by decide) x
  have hargs' : args = [("userId", .scalar (.int32 7)), ("USERID", .scalar (.text "ann"))] := by
    have h := Except.ok.inj (hargs.symm.trans (argumentsBy_eq hbindable (by decide) x))
    simp only [hbound, List.map_cons, List.map_nil, List.cons.injEq, and_true] at hnames
    rw [h, boundArguments, hbound, List.map_cons, hnames.1, List.map_cons, hnames.2]
    rfl
  have hholds : row.Holds args := by
    rw [hargs']
    refine ⟨[("note", .scalar .null)], ?_, by simp⟩
    exact List.perm_append_singleton ("userId", Argument.scalar (.int32 7))
      [("USERID", Argument.scalar (.text "ann")), ("note", Argument.scalar .null)]
  obtain ⟨fields, hfields, hvalues⟩ := hread row hholds
  exact ⟨mapping, fields, hmapping, hfields, hvalues.trans rfl⟩

end RecordDeclaration

end SqlAccess

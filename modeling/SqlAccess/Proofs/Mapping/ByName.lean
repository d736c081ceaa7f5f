import Mathlib.Data.List.Basic
import SqlAccess.Mapping.Row
import SqlAccess.Proofs.Table.Column

/-!
# Records are read by name

Of a row, a field of a record sees no more than the cells that are called by its column, up to case.
Where there is at most one, it decides what the field reads, failures and defaults included
(`RecordField.read_eq`). The order of the columns has no part in this and neither have columns that
no field asks for, so a row that differs in these alone is mapped to the same result
(`RowMapping.apply_record_of_perm`).
-/

namespace SqlAccess

/-! ## Cells -/

/-- The columns of a row with their values. -/
def Row.cells (row : Row) : List (String × Value) :=
  row.columns.zip row.values

/-- The cells whose columns are called `name`, up to case. -/
def Row.called (row : Row) (name : String) : List (String × Value) :=
  row.cells.filter fun cell => SameName name cell.1

/-- The value of a cell in the wanted type; a failure names the cell's own column. -/
def readCell (cell : String × Value) (t : Target) : Except Error Value :=
  match t.read cell.2 with
  | .ok w => .ok w
  | .error e => .error (.decode cell.1 e.message)

namespace Row

variable {row : Row} {name : String} {cell : String × Value} {i : Nat}

theorem map_fst_cells (row : Row) : row.cells.map (·.1) = row.columns :=
  List.map_fst_zip (Nat.le_of_eq row.width_eq.symm)

theorem mem_called_iff : cell ∈ row.called name ↔ cell ∈ row.cells ∧ SameName name cell.1 := by
  rw [called, List.mem_filter, decide_eq_true_iff]

theorem getElem?_cells_iff :
    row.cells[i]? = some cell ↔ row.columns[i]? = some cell.1 ∧ row.values[i]? = some cell.2 :=
  List.getElem?_zip_eq_some

/-- No two columns that are different up to case are called by one name. -/
theorem length_called_le_one (h : DistinctColumns row.columns) (name : String) :
    (row.called name).length ≤ 1 := by
  have hcells : row.cells.Pairwise fun c d => ¬ SameName c.1 d.1 := by
    rwa [DistinctColumns, ← map_fst_cells, List.pairwise_map] at h
  have hcalled : (row.called name).Pairwise fun c d => ¬ SameName c.1 d.1 := hcells.filter _
  match hlist : row.called name with
  | [] => exact Nat.zero_le 1
  | [_] => exact Nat.le_refl 1
  | c :: d :: rest =>
    have hmem (e : String × Value) (he : e ∈ c :: d :: rest) : SameName name e.1 :=
      (mem_called_iff.1 (hlist ▸ he)).2
    rw [hlist] at hcalled
    have hne := (List.pairwise_cons.1 hcalled).1 d List.mem_cons_self
    exact absurd ((hmem c (by simp)).symm.trans (hmem d (by simp))) hne

/-! ## Cells found by name -/

theorem read_of_cell (h : row.cells[i]? = some cell) (t : Target) :
    row.read i t = readCell cell t := by
  obtain ⟨hcolumn, hvalue⟩ := getElem?_cells_iff.1 h
  have hv : row.value i = .ok cell.2 := by rw [value, hvalue]
  rw [read, hv, readCell, hcolumn]
  cases hread : t.read cell.2 <;> simp [bind, Except.bind, pure, Except.pure, throw, throwThe,
    MonadExceptOf.throw, hread]

theorem ordinal?_eq_none_iff : row.ordinal? name = none ↔ row.called name = [] := by
  rw [ordinal?, findColumn?_eq_none_iff, called, List.filter_eq_nil_iff, ← map_fst_cells]
  simp

/-- Where at most one cell is called by the name, the column that is found holds it. -/
theorem called_of_ordinal (hone : (row.called name).length ≤ 1) (h : row.ordinal? name = some i) :
    ∃ cell, row.called name = [cell] ∧ row.cells[i]? = some cell := by
  obtain ⟨c, v, hc, hsame, hv⟩ := exists_of_ordinal h
  have hcell : row.cells[i]? = some (c, v) := getElem?_cells_iff.2 ⟨hc, hv⟩
  have hmem : (c, v) ∈ row.called name :=
    mem_called_iff.2 ⟨List.mem_of_getElem? hcell, hsame⟩
  obtain ⟨d, hd⟩ :=
    List.length_eq_one_iff.1 (Nat.le_antisymm hone (List.length_pos_of_mem hmem))
  rw [hd, List.mem_singleton] at hmem
  exact ⟨d, hd, hmem ▸ hcell⟩

end Row

/-! ## Fields -/

namespace RecordField

/-- What a field reads of the cells that are called by its column. -/
def readCells (f : RecordField) (cells : List (String × Value)) : Except Error Value :=
  match f.presence, cells with
  | .skipped, _ => .ok f.target.default
  | _, cell :: _ => readCell cell f.target
  | .required, [] => .error (.columnNotFound f.column)
  | .optional, [] => .ok f.target.default

variable {f : RecordField} {row : Row}

/-- A field reads the one cell that is called by its column. -/
theorem read_eq (h : (row.called f.column).length ≤ 1) :
    f.read row = f.readCells (row.called f.column) := by
  cases hi : row.ordinal? f.column with
  | none =>
    rw [Row.ordinal?_eq_none_iff.1 hi]
    cases hp : f.presence <;>
      simp [read, readCells, hp, Row.readNamed, Row.requireOrdinal, Row.readNamedOrDefault, hi,
        bind, Except.bind]
  | some i =>
    obtain ⟨cell, hcalled, hcell⟩ := Row.called_of_ordinal h hi
    rw [hcalled]
    cases hp : f.presence <;>
      simp [read, readCells, hp, Row.readNamed, Row.requireOrdinal, Row.readNamedOrDefault, hi,
        bind, Except.bind, Row.read_of_cell hcell]

theorem read_of_skipped (h : f.presence = .skipped) (row : Row) :
    f.read row = .ok f.target.default := by
  rw [read, h]

end RecordField

/-! ## Records -/

/-- Where at most one cell can be called by the name, it is still the one if the columns are put in
another order among others that are not called so. -/
theorem Row.called_of_perm {row row' : Row} {extra : List (String × Value)} {name : String}
    (hd : DistinctColumns row.columns) (hperm : row'.cells.Perm (row.cells ++ extra))
    (hextra : ∀ cell ∈ extra, ¬ SameName name cell.1) : row'.called name = row.called name := by
  have hnone : (extra.filter fun cell => SameName name cell.1) = [] :=
    List.filter_eq_nil_iff.2 fun cell hcell => by simpa using hextra cell hcell
  have hcalled : (row'.called name).Perm (row.called name) := by
    have := hperm.filter fun cell => SameName name cell.1
    rwa [List.filter_append, hnone, List.append_nil] at this
  match hlist : row.called name with
  | [] => exact List.perm_nil.1 (hlist ▸ hcalled)
  | [_] => exact List.perm_singleton.1 (hlist ▸ hcalled)
  | _ :: _ :: _ =>
    have := length_called_le_one hd name
    simp [hlist] at this

theorem mapM_congr {ε α β : Type} {f g : α → Except ε β} {l : List α} (h : ∀ a ∈ l, f a = g a) :
    l.mapM f = l.mapM g := by
  induction l with
  | nil => rfl
  | cons a l ih =>
    rw [List.mapM_cons, List.mapM_cons, h a List.mem_cons_self,
      ih fun b hb => h b (List.mem_cons_of_mem a hb)]

/-- Let no two columns of a row be the same up to case. Another row with the same columns and values
in any order, and with any others whose names are not those of fields that are read, is mapped to
the same record, or fails for the same reason. -/
theorem RowMapping.apply_record_of_perm {fields : List RecordField} {row row' : Row}
    {extra : List (String × Value)} (hd : DistinctColumns row.columns)
    (hperm : row'.cells.Perm (row.cells ++ extra))
    (hextra : ∀ f ∈ fields, f.presence ≠ .skipped → ∀ cell ∈ extra, ¬ SameName f.column cell.1) :
    (RowMapping.record fields).apply row' = (RowMapping.record fields).apply row := by
  have hread : ∀ f ∈ fields, f.read row' = f.read row := by
    intro f hf
    by_cases hskip : f.presence = .skipped
    · rw [RecordField.read_of_skipped hskip, RecordField.read_of_skipped hskip]
    · have hone := Row.length_called_le_one hd f.column
      have hcalled := Row.called_of_perm hd hperm (hextra f hf hskip)
      rw [RecordField.read_eq hone, RecordField.read_eq (hcalled ▸ hone), hcalled]
  rw [RowMapping.apply, RowMapping.apply]
  exact congrArg _ (mapM_congr fun f hf => by rw [hread f hf])

theorem RowMapping.apply_record_of_perm_mistyped_column :
    let fields : List RecordField := [⟨⟨"user", "ID", .required⟩, ⟨.int64, false⟩⟩,
      ⟨⟨"nickname", "nick", .optional⟩, ⟨.text, true⟩⟩, ⟨⟨"cached", "", .skipped⟩, ⟨.any, false⟩⟩]
    let row : Row := ⟨["id", "Nick"], [.int16 7, .bool true], rfl⟩
    let row' : Row := ⟨["", "x", "X", "Nick", "id"],
      [.null, .text "y", .null, .bool true, .int16 7], rfl⟩
    let extra : List (String × Value) := [("", .null), ("x", .text "y"), ("X", .null)]
    DistinctColumns row.columns ∧ row'.cells.Perm (row.cells ++ extra) ∧
      (∀ f ∈ fields, f.presence ≠ .skipped → ∀ cell ∈ extra, ¬ SameName f.column cell.1) ∧
      (RowMapping.record fields).apply row' =
        .error (.decode "Nick" "cannot convert bool value to text") := by
  intro fields row row' extra
  have hd : DistinctColumns row.columns := by decide
  have hperm : row'.cells.Perm (row.cells ++ extra) :=
    List.perm_append_comm.trans ((List.reverse_perm row.cells).append_right extra)
  have hextra : ∀ f ∈ fields, f.presence ≠ .skipped →
      ∀ cell ∈ extra, ¬ SameName f.column cell.1 := by
    decide
  exact ⟨hd, hperm, hextra, (RowMapping.apply_record_of_perm hd hperm hextra).trans rfl⟩

end SqlAccess

import SqlAccess.Mapping.Declaration
import SqlAccess.Table.Basic

/-!
# Mapping rows

A row is mapped onto itself, onto a tuple of its leading columns, or onto a record whose fields
name their columns. The first field that cannot be read decides the failure.
-/

namespace SqlAccess

/-- A field of a record, its column and the type it is read in. -/
structure RecordField extends RowField where
  target : Target
  deriving Repr

inductive RowMapping
  | row
  | tuple (targets : List Target)
  | record (fields : List RecordField)
  deriving Repr

/-- What a row becomes. -/
inductive Mapped
  | values (vs : List Value)
  | record (fields : List (RecordField × Value))
  deriving Repr

def RecordField.read (f : RecordField) (r : Row) : Except Error Value :=
  match f.presence with
  | .required => r.readNamed f.column f.target
  | .optional => r.readNamedOrDefault f.column f.target
  | .skipped => .ok f.target.default

namespace RowMapping

def apply (m : RowMapping) (r : Row) : Except Error Mapped :=
  match m with
  | .row => .ok (.values r.values)
  | .tuple targets => .values <$> targets.zipIdx.mapM fun (t, i) => r.read i t
  | .record fields => .record <$> fields.mapM fun f => (f, ·) <$> f.read r

/-- Maps every row of a table. -/
def applyAll (m : RowMapping) (t : Table) : Except Error (List Mapped) :=
  t.rows.mapM m.apply

end RowMapping

end SqlAccess

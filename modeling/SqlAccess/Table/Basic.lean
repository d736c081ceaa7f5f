import SqlAccess.Table.Row

/-!
# Tables

A table is a result held in memory: its columns and its rows, all over the same columns.
-/

namespace SqlAccess

structure Table where
  columns : List String
  rows : List Row
  columns_eq : ∀ r ∈ rows, r.columns = columns

namespace Table

def empty (columns : List String) : Table := ⟨columns, [], by simp⟩

instance : Inhabited Table := ⟨empty []⟩

/-- Appends a row; the number of values has to be that of the columns. -/
def push (t : Table) (values : List Value) : Except Error Table :=
  if h : values.length = t.columns.length then
    .ok ⟨t.columns, t.rows ++ [⟨t.columns, values, h⟩], by
      intro r hr
      rcases List.mem_append.1 hr with hr | hr
      · exact t.columns_eq r hr
      · rw [List.mem_singleton.1 hr]⟩
  else .error (.rowWidth values.length t.columns.length)

/-- Appends rows one after another up to the first that does not fit. -/
def pushAll (t : Table) (rows : List (List Value)) : Except Error Table :=
  rows.foldlM push t

def size (t : Table) : Nat := t.rows.length

def isEmpty (t : Table) : Bool := t.rows.isEmpty

def first? (t : Table) : Option Row := t.rows.head?

end Table

end SqlAccess

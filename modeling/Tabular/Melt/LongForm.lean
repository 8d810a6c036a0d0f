/-
**From wide tables to long ones.**

A melted table has one record for each row and each melted column: the kept cells of the row, the
name of the melted column, and the cell of the row in that column.  Rows that are too short are
filled up with empty cells and rows that are too long are cut, so every row gives the same number
of records.

Main definitions:

* `Tabular.Melt.fit` — a row brought to the width of the table;
* `Tabular.Melt.LongForm` — a partition of the columns with all the names that the records of the
  long table hold;
* `Tabular.Melt.LongForm.recordsOf`, `Tabular.Melt.LongForm.recordsOfAll` — the records for a row
  and for all rows;
* `Tabular.Melt.LongTable.ofTable` — **a whole table melted**, its first record being the header.

Main results:

* `Tabular.Melt.length_fit`, `Tabular.Melt.getElem?_fit` — the width and the cells of a fitted row;
* `Tabular.Melt.LongForm.length_recordsOf` — each row gives as many records as columns are melted.
-/

import Tabular.Table
import Tabular.Melt.Partition

set_option autoImplicit false

namespace Tabular

namespace Melt

/-! ### Rows of one width -/

/-- A row brought to a width: cut, or filled up with empty cells. -/
def fit (width : Nat) (row : Record) : Record :=
  row.take width ++ List.replicate (width - row.length) ""

@[simp] theorem length_fit (width : Nat) (row : Record) : (fit width row).length = width := by
  simp only [fit, List.length_append, List.length_take, List.length_replicate]
  omega

/-- A cell of a fitted row is the cell of the row, or empty where the row is too short. -/
theorem getElem?_fit {width i : Nat} (row : Record) (h : i < width) :
    (fit width row)[i]? = some (row.getD i "") := by
  rw [fit]
  by_cases hi : i < row.length
  · rw [List.getElem?_append_left (by simp; omega), List.getElem?_take_of_lt h]
    simp [hi]
  · rw [List.getElem?_append_right (by simp; omega)]
    simp only [List.length_take]
    rw [List.getElem?_replicate_of_lt (by omega)]
    simp [List.getD, List.getElem?_eq_none (Nat.le_of_not_lt hi)]

/-! ### The long form of a table -/

/-- The names of the two columns that a long table has at its end. -/
structure Labels where
  /-- The name of the column that holds column names. -/
  key : String := "k"
  /-- The name of the column that holds cells. -/
  value : String := "v"
  deriving DecidableEq, Repr

/-- The names of the new columns unless others are chosen. -/
def Labels.standard : Labels := {}

/-- A partition of the columns with all the names that the records of the long table hold. -/
structure LongForm where
  /-- Which columns are kept and which are melted. -/
  partition : Partition
  /-- The names of the columns of the wide table. -/
  names : Record
  /-- The names of the two new columns. -/
  labels : Labels
  deriving DecidableEq, Repr

/-- A long table. -/
structure LongTable where
  header : Record
  /-- The records, row by row of the wide table. -/
  records : Table
  deriving DecidableEq, Repr

/-- The long table with its header as the first record. -/
def LongTable.toTable (long : LongTable) : Table := long.header :: long.records

namespace LongForm

/-- The long form of tables with given column names when requested columns are melted. -/
def ofRequests (names : Record) (requests : List Int) (labels : Labels) :
    Except Refusal LongForm := do
  return ⟨← Partition.ofRequests names.length requests, names, labels⟩

/-- The cells of a row in the kept columns. -/
def keptCells (form : LongForm) (row : Record) : Record :=
  form.partition.kept.map fun i => row.getD i ""

/-- The names of the columns of the long table. -/
def header (form : LongForm) : Record :=
  form.keptCells form.names ++ [form.labels.key, form.labels.value]

/-- **The records for a row**, in the order of the melted columns. -/
def recordsOf (form : LongForm) (row : Record) : Table :=
  let cells := fit form.partition.width row
  let kept := form.keptCells cells
  form.partition.melted.map fun i => kept ++ [form.names.getD i "", cells.getD i ""]

/-- The records for all rows. -/
def recordsOfAll (form : LongForm) (rows : Table) : Table := rows.flatMap form.recordsOf

/-- The long table for the rows under the header. -/
def tableOf (form : LongForm) (rows : Table) : LongTable := ⟨form.header, form.recordsOfAll rows⟩

@[simp] theorem length_recordsOf (form : LongForm) (row : Record) :
    (form.recordsOf row).length = form.partition.melted.length := by
  simp [recordsOf]

end LongForm

/-- **A whole table melted.**  Its first record is the header. -/
def LongTable.ofTable (table : Table) (requests : List Int) (labels : Labels) :
    Except Refusal LongTable :=
  match table with
  | [] => .error .noHeader
  | names :: rows => do return (← LongForm.ofRequests names requests labels).tableOf rows

end Melt

end Tabular

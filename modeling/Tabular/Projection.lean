/-
**Projecting a table onto requested columns.**

Every row that is not blank gives one record: its cells at the requested columns, in the order of
the requests.  A column that a row does not have is left out of that record and noted, with the
number of the row, which counts blank rows too.  Nothing is ever refused.

Main definitions:

* `Tabular.MissingColumn` — a note that a row lacks a requested column, with its wording and its
  form in a report;
* `Tabular.Projection` — the distinct columns to project onto;
* `Tabular.Projection.addRow` — one row, with the notes collected so far;
* `Tabular.Projected.ofTable` — **the projection of a whole table**.
-/

import Tabular.Table
import Tabular.Column

set_option autoImplicit false

namespace Tabular

/-! ### Missing columns -/

/-- A requested column that a row does not have. -/
structure MissingColumn where
  /-- The number of the row, counted from 1. -/
  row : Nat
  /-- The column requested. -/
  index : Int
  /-- The number of cells the row has. -/
  width : Nat
  deriving DecidableEq, Repr

namespace MissingColumn

/-- The note in words. -/
def text (note : MissingColumn) : String :=
  "row " ++ toString note.row ++ " has no column " ++ toString note.index
    ++ " (row has " ++ toString note.width ++ " columns)"

/-- The note as a line of a report: a JSON object. -/
def json (note : MissingColumn) : String :=
  "\x7b\"row\":" ++ toString note.row ++ ",\"index\":" ++ toString note.index
    ++ ",\"width\":" ++ toString note.width ++ "\x7d"

end MissingColumn

/-! ### Projections -/

/-- The columns to project onto, in output order. -/
structure Projection where
  columns : List Int
  nodup : columns.Nodup

namespace Projection

/-- The projection onto requested columns. -/
def ofRequests (requests : List Int) : Projection :=
  ⟨Column.distinct requests, Column.nodup_distinct requests⟩

/-- The cells of a row at the columns that it has. -/
def cells (projection : Projection) (row : Record) : Record :=
  projection.columns.filterMap fun index => (Column.position? index row.length).bind (row[·]?)

/-- The record for a row.  There is none for a blank row. -/
def record? (projection : Projection) (row : Record) : Option Record :=
  if row.isEmpty then none else some (projection.cells row)

/-- Notes on the columns that the row with a given number does not have.  There are none on a
blank row. -/
def missing (projection : Projection) (number : Nat) (row : Record) : List MissingColumn :=
  if row.isEmpty then []
  else
    (projection.columns.filter fun index => (Column.position? index row.length).isNone).map
      fun index => ⟨number, index, row.length⟩

/-- **Projects one row** and adds its notes to those collected so far. -/
def addRow (projection : Projection) (number : Nat) (row : Record)
    (notes : List MissingColumn) : Option Record × List MissingColumn :=
  (projection.record? row, notes ++ projection.missing number row)

@[simp] theorem record?_nil (projection : Projection) : projection.record? [] = none := rfl

@[simp] theorem missing_nil (projection : Projection) (number : Nat) :
    projection.missing number [] = [] := rfl

end Projection

/-! ### Whole tables -/

/-- A projected table. -/
structure Projected where
  /-- One record for each row that is not blank. -/
  records : Table
  /-- The notes on missing columns, row by row. -/
  missing : List MissingColumn
  deriving DecidableEq, Repr

/-- The projection of a table.  Rows are numbered from 1. -/
def Projection.onTable (projection : Projection) (table : Table) : Projected where
  records := table.filterMap projection.record?
  missing := (table.zipIdx 1).flatMap fun (row, number) => projection.missing number row

/-- **The projection of a table onto requested columns.** -/
def Projected.ofTable (table : Table) (requests : List Int) : Projected :=
  (Projection.ofRequests requests).onTable table

end Tabular

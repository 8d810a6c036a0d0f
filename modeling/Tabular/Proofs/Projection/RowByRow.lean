/-
**Projecting row by row.**

The rows of a table are projected one after another, and all of them add their notes to one list.  A
row only adds to the end of that list, and what it adds depends on its number and its cells alone,
so that a row may be projected after any others.  The same holds inside a row, which is gone through
column by column.

So a table can be cut anywhere.  The records of the parts follow each other as they are, because a
record does not hold the number of its row.  The notes do, and those on the second part count its
rows from where the first one ends, blank rows included.

Main definitions:

* `Tabular.Projection.addColumn` — one column of a row;
* `Tabular.Projection.addRows` — **rows with their numbers, one after another**;
* `Tabular.MissingColumn.shift` — a note on a row that comes later.

Main results:

* `Tabular.Projection.addRow_eq_foldl` — a row is projected column by column;
* `Tabular.Projection.addRows_eq` — what rows give does not depend on the rows around them;
* `Tabular.Projection.onTable_append` — the projection of a table is that of its parts;
* `Tabular.Projection.addRows_onTable` — **rows only add to the notes, and tables can be projected
  in parts**.
-/

import Tabular.Proofs.Projection.Account

set_option autoImplicit false

namespace Tabular

namespace Projection

variable (projection : Projection)

/-! ### Column by column -/

/-- **One column of a row**: its cell joins the record, or a note joins the others. -/
def addColumn (number : Nat) (row : Record) (found : Record × List MissingColumn) (index : Int) :
    Record × List MissingColumn :=
  match row.cell? index with
  | some cell => (found.1 ++ [cell], found.2)
  | none => (found.1, found.2 ++ [⟨number, index, row.length⟩])

theorem foldl_addColumn (number : Nat) (row : Record) (columns : List Int)
    (found : Record × List MissingColumn) :
    columns.foldl (addColumn number row) found
      = (found.1 ++ columns.filterMap row.cell?,
        found.2
          ++ (columns.filter (¬ row.Has ·)).map fun index => ⟨number, index, row.length⟩) := by
  induction columns generalizing found with
  | nil => simp
  | cons index columns ih =>
      rw [List.foldl_cons, ih, addColumn]
      cases hcell : row.cell? index with
      | some cell =>
          have hhas : row.Has index := by rw [← row.isSome_cell?_iff, hcell, Option.isSome_some]
          simp [hcell, hhas]
      | none =>
          have hlack : ¬ row.Has index := (row.cell?_eq_none_iff index).1 hcell
          simp [hcell, hlack]

/-- **A row that is not blank is projected column by column.** -/
theorem addRow_eq_foldl (number : Nat) {row : Record} (hrow : row ≠ [])
    (notes : List MissingColumn) :
    projection.addRow number row notes
      = Prod.map some id (projection.columns.foldl (addColumn number row) ([], notes)) := by
  rw [foldl_addColumn, ← cells_eq_filterMap, ← projection.missing_eq_filter number hrow, addRow,
    record?, if_neg (by simpa using hrow)]
  rfl

/-! ### Row by row -/

/-- **Projects rows with their numbers, one after another**, and adds their notes to those collected
so far. -/
def addRows : List (Record × Nat) → List MissingColumn → List (Option Record) × List MissingColumn
  | [], notes => ([], notes)
  | (row, number) :: rows, notes =>
      let added := projection.addRow number row notes
      let others := addRows rows added.2
      (added.1 :: others.1, others.2)

/-- A row adds to any notes what it gives without them. -/
theorem addRow_eq_append (number : Nat) (row : Record) (notes : List MissingColumn) :
    projection.addRow number row notes
      = ((projection.addRow number row []).1, notes ++ (projection.addRow number row []).2) := rfl

/-- **What rows give does not depend on the rows around them**: each gives the record and adds the
notes that it gives alone. -/
theorem addRows_eq (rows : List (Record × Nat)) (notes : List MissingColumn) :
    projection.addRows rows notes
      = (rows.map fun (row, number) => (projection.addRow number row []).1,
        notes ++ rows.flatMap fun (row, number) => (projection.addRow number row []).2) := by
  induction rows generalizing notes with
  | nil => simp [addRows]
  | cons numbered rows ih =>
      obtain ⟨row, number⟩ := numbered
      rw [addRows, ih, addRow_eq_append, List.map_cons, List.flatMap_cons, List.append_assoc]

/-- A table is projected row by row. -/
theorem onTable_eq_addRows (t : Table) :
    projection.onTable t = ⟨(projection.addRows (t.zipIdx 1) []).1.reduceOption,
      (projection.addRows (t.zipIdx 1) []).2⟩ := by
  have hrecords : (t.zipIdx 1).map (projection.record? ∘ Prod.fst) = t.map projection.record? := by
    rw [← List.map_map, List.zipIdx_map_fst]
  have hrun : (projection.addRows (t.zipIdx 1) []).1 = t.map projection.record? := by
    rw [addRows_eq, ← hrecords]
    rfl
  have hkept : (t.map projection.record?).reduceOption = t.filterMap projection.record? :=
    List.filterMap_map
  rw [hrun, hkept, addRows_eq]
  rfl

end Projection

/-! ### Tables in parts -/

/-- A note on a row that comes a number of rows later. -/
def MissingColumn.shift (rows : Nat) (note : MissingColumn) : MissingColumn :=
  { note with row := note.row + rows }

namespace Projection

variable (projection : Projection)

/-- The number of a row is in its notes and matters to nothing else. -/
theorem missing_add (number rows : Nat) (row : Record) :
    projection.missing (number + rows) row
      = (projection.missing number row).map (MissingColumn.shift rows) := by
  rw [missing, missing]
  split
  · rfl
  · rw [List.map_map]
    rfl

/-- **The projection of a table is that of its parts**, with the rows of the second part counted
from where the first one ends. -/
theorem onTable_append (t u : Table) :
    projection.onTable (t ++ u)
      = ⟨(projection.onTable t).records ++ (projection.onTable u).records,
        (projection.onTable t).missing
          ++ (projection.onTable u).missing.map (MissingColumn.shift t.length)⟩ := by
  have hnumbers : u.zipIdx (1 + t.length)
      = (u.zipIdx 1).map (Prod.map id fun number => number + t.length) := by
    rw [List.map_snd_add_zipIdx_eq_zipIdx, Nat.add_comm]
  have hsecond : (u.zipIdx (1 + t.length)).flatMap (fun (row, number) =>
        projection.missing number row)
      = (projection.onTable u).missing.map (MissingColumn.shift t.length) := by
    rw [hnumbers, List.flatMap_map, onTable, List.map_flatMap]
    refine List.flatMap_congr ?_
    rintro ⟨row, number⟩ _
    exact projection.missing_add number t.length row
  rw [onTable, List.filterMap_append, List.zipIdx_append, List.flatMap_append, hsecond]
  rfl

/-- **Rows only add to the notes, and tables can be projected in parts.**  A row is gone through
column by column, and a blank one adds nothing.  Rows that are projected one after another give what
each of them gives alone, behind the notes that were there, and further rows change nothing of
this.  A table is projected in this way; so its parts can be projected apart, if the rows of the
second one are counted from where the first one ends. -/
theorem addRows_onTable (rows more : List (Record × Nat)) (notes : List MissingColumn)
    (t u : Table) :
    (∀ number row, row ≠ [] → projection.addRow number row notes
        = Prod.map some id (projection.columns.foldl (addColumn number row) ([], notes))) ∧
      (∀ number, projection.addRow number [] notes = (none, notes)) ∧
      projection.addRows rows notes
        = (rows.map fun (row, number) => (projection.addRow number row []).1,
          notes ++ rows.flatMap fun (row, number) => (projection.addRow number row []).2) ∧
      (projection.addRows rows notes).2 <+: (projection.addRows (rows ++ more) notes).2 ∧
      projection.onTable t = ⟨(projection.addRows (t.zipIdx 1) []).1.reduceOption,
        (projection.addRows (t.zipIdx 1) []).2⟩ ∧
      (projection.onTable (t ++ u)).records
        = (projection.onTable t).records ++ (projection.onTable u).records ∧
      (projection.onTable (t ++ u)).missing
        = (projection.onTable t).missing
          ++ (projection.onTable u).missing.map (MissingColumn.shift t.length) := by
  refine ⟨fun number row hrow => projection.addRow_eq_foldl number hrow notes, ?_,
    projection.addRows_eq rows notes, ?_, projection.onTable_eq_addRows t, ?_, ?_⟩
  · intro number
    rw [addRow, record?_nil, missing_nil, List.append_nil]
  · rw [addRows_eq, addRows_eq, List.flatMap_append, ← List.append_assoc]
    exact List.prefix_append ..
  · rw [onTable_append]
  · rw [onTable_append]

/-- Rows with any numbers behind a note that was there, a blank one among them; and a table whose
first part ends with a blank row. -/
theorem addRows_onTable_blankRow :
    (ofRequests [1, 0, 1]).addRow 7 ["x"] [⟨9, 4, 2⟩]
        = Prod.map some id (([1, 0] : List Int).foldl (addColumn 7 ["x"]) ([], [⟨9, 4, 2⟩])) ∧
      (ofRequests [1, 0, 1]).addRows [(["x"], 7), ([], 3), (["y", "z"], 7)] [⟨9, 4, 2⟩]
        = ([some ["x"], none, some ["z", "y"]], [⟨9, 4, 2⟩, ⟨7, 1, 1⟩]) ∧
      ((ofRequests [1, 0, 1]).onTable ([["x", "y"], []] ++ [[], ["z"]])).missing = [⟨4, 1, 1⟩] ∧
      ((ofRequests [1, 0, 1]).onTable [[], ["z"]]).missing = [⟨2, 1, 1⟩] := by
  obtain ⟨hcolumns, -, hrows, -, -, -, hparts⟩ := (ofRequests [1, 0, 1]).addRows_onTable
    [(["x"], 7), ([], 3), (["y", "z"], 7)] [] [⟨9, 4, 2⟩] [["x", "y"], []] [[], ["z"]]
  exact ⟨hcolumns 7 ["x"] (by decide), hrows.trans (by decide), hparts.trans (by decide),
    by decide⟩

end Projection

end Tabular

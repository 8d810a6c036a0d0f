/-
**Statements for a projection that was stored in a file.**

A table can be projected and turned into statements at once, or the projection can be stored in a
file in between.  Both ways give the same statements as long as every row keeps a cell.  A row that
has none of the requested columns is projected onto a record without cells.  That record gives no
statement, but it has a line in the file, and what is read from this line is a record of one empty
cell, which gives a statement like any other.

Main definitions:

* `Tabular.HasColumn` — whether a row has one of the requested columns;
* `Tabular.Sql.Inserter.placeholder` — the statement for a row of one empty cell;
* `Tabular.Sql.Inserter.statementFor` — the statement for a projected row that was stored.

Main results:

* `Tabular.Projection.cells_eq_nil_iff` — which rows are left without cells;
* `Tabular.Sql.Inserter.statements_filled_eq_iff` — when storing a table adds no statements;
* `Tabular.statements_stored` — **a stored projection gives a statement for every row, and the same
  statements exactly if every row has a column**.
-/

import Tabular.Projection
import Tabular.Proofs.Delimited.RoundTrip
import Tabular.Sql.Insert

set_option autoImplicit false

namespace Tabular

/-- A function that leaves out the blank rows only is a map on the others. -/
theorem Table.filterMap_eq_map_filter {α : Type} {f : Record → Option α} {g : Record → α}
    (hblank : f [] = none) (hrow : ∀ row, row ≠ [] → f row = some (g row)) (t : Table) :
    t.filterMap f = (t.filter (· ≠ [])).map g := by
  rw [← List.filterMap_eq_map, List.filterMap_filter]
  refine List.filterMap_congr ?_
  intro row _
  by_cases h : row = []
  · rw [h, hblank]
    rfl
  · simp [h, hrow row h]

/-! ### Rows without requested columns -/

/-- A row that has one of the requested columns. -/
def HasColumn (requests : List Int) (row : Record) : Prop :=
  ∃ index ∈ requests, 0 ≤ index ∧ index < row.length

instance decidableHasColumn (requests : List Int) (row : Record) :
    Decidable (HasColumn requests row) :=
  inferInstanceAs (Decidable (∃ index ∈ requests, 0 ≤ index ∧ index < row.length))

namespace Projection

theorem cells_eq_nil_iff {requests : List Int} {row : Record} :
    (ofRequests requests).cells row = [] ↔ ¬ HasColumn requests row := by
  rw [cells, List.filterMap_eq_nil_iff]
  constructor
  · rintro hnone ⟨index, hmem, hge, hlt⟩
    have hcell := hnone index (Column.mem_distinct.2 hmem)
    lift index to ℕ using hge
    have hposition : Column.position? index row.length = some index :=
      Column.position?_eq_some_iff.2 ⟨rfl, by omega⟩
    rw [hposition, Option.bind_some, List.getElem?_eq_none_iff] at hcell
    omega
  · intro hno index hmem
    have hposition : Column.position? index row.length = none := by
      rw [Column.position?_eq_none_iff]
      by_contra hrange
      exact hno ⟨index, Column.mem_distinct.1 hmem, by omega, by omega⟩
    rw [hposition, Option.bind_none]

/-- Each row that is not blank is projected onto a record. -/
theorem records_onTable (projection : Projection) (t : Table) :
    (projection.onTable t).records = (t.filter (· ≠ [])).map projection.cells := by
  refine Table.filterMap_eq_map_filter rfl ?_ t
  intro row hrow
  simp [record?, hrow]

end Projection

/-! ### Statements for a stored table -/

namespace Sql.Inserter

/-- The statement for a row of one empty cell. -/
def placeholder (inserter : Inserter) : String :=
  statementOf inserter.target (inserter.surrogate.toList
    ++ "''" :: inserter.partition.toList.map fun value => literal inserter.limit (some value))

/-- The statement for a record that comes back from a file. -/
def storedStatement (inserter : Inserter) (record : Record) : String :=
  if record = [] then inserter.placeholder
  else statementOf inserter.target (inserter.values record)

theorem statement?_filled (inserter : Inserter) (record : Record) :
    inserter.statement? record.filled = some (inserter.storedStatement record) := by
  have hempty : literal inserter.limit (some "") = "''" := by
    simp [literal, literalChars, doubleQuotes, quote]
  cases record with
  | nil =>
      change some (statementOf inserter.target (inserter.values [""])) = some inserter.placeholder
      rw [values, placeholder, List.singleton_append, List.map_cons, hempty]
  | cons cell record => rfl

/-- Each record of a stored table gives a statement. -/
theorem statements_filled (inserter : Inserter) (t : Table) :
    inserter.statements t.filled = t.map inserter.storedStatement := by
  rw [statements, Table.filled, List.filterMap_map, ← List.filterMap_eq_map]
  refine List.filterMap_congr ?_
  intro record _
  exact inserter.statement?_filled record

theorem statements_eq_map (inserter : Inserter) (t : Table) :
    inserter.statements t = (t.filter (· ≠ [])).map inserter.storedStatement := by
  refine Table.filterMap_eq_map_filter rfl ?_ t
  intro record hrecord
  simp [statement?, storedStatement, hrecord]

/-- Storing a table adds no statements exactly if each of its records has cells. -/
theorem statements_filled_eq_iff (inserter : Inserter) (t : Table) :
    inserter.statements t.filled = inserter.statements t ↔ ∀ record ∈ t, record ≠ [] := by
  rw [statements_filled, statements_eq_map]
  constructor
  · intro h
    have hlength := congrArg List.length h
    rw [List.length_map, List.length_map, eq_comm, List.length_filter_eq_length_iff] at hlength
    simpa using hlength
  · intro h
    rw [List.filter_eq_self.2 (by simpa using h)]

end Sql.Inserter

/-! ### Statements for a stored projection -/

/-- The statement for a row whose projection was stored. -/
def Sql.Inserter.statementFor (inserter : Inserter) (requests : List Int) (row : Record) : String :=
  if HasColumn requests row then
    statementOf inserter.target (inserter.values ((Projection.ofRequests requests).cells row))
  else inserter.placeholder

theorem Sql.Inserter.storedStatement_cells (inserter : Inserter) (requests : List Int)
    (row : Record) :
    inserter.storedStatement ((Projection.ofRequests requests).cells row)
      = inserter.statementFor requests row := by
  simp only [storedStatement, statementFor, Projection.cells_eq_nil_iff, ite_not]

section

variable (t : Table) (requests : List Int) (inserter : Sql.Inserter)

theorem statements_filled_ofTable :
    inserter.statements (Projected.ofTable t requests).records.filled
      = (t.filter (· ≠ [])).map (inserter.statementFor requests) := by
  rw [Sql.Inserter.statements_filled, Projected.ofTable, Projection.records_onTable, List.map_map]
  exact List.map_congr_left fun row _ => inserter.storedStatement_cells requests row

theorem statements_ofTable :
    inserter.statements (Projected.ofTable t requests).records
      = ((t.filter (· ≠ [])).filter (HasColumn requests ·)).map (inserter.statementFor requests) := by
  have hkept : ((t.filter (· ≠ [])).map (Projection.ofRequests requests).cells).filter (· ≠ [])
      = ((t.filter (· ≠ [])).filter (HasColumn requests ·)).map
          (Projection.ofRequests requests).cells := by
    rw [List.filter_map]
    congr 1
    refine List.filter_congr ?_
    intro row _
    simp [Projection.cells_eq_nil_iff]
  rw [Sql.Inserter.statements_eq_map, Projected.ofTable, Projection.records_onTable, hkept,
    List.map_map]
  exact List.map_congr_left fun row _ => inserter.storedStatement_cells requests row

theorem statements_filled_ofTable_eq_iff :
    inserter.statements (Projected.ofTable t requests).records.filled
        = inserter.statements (Projected.ofTable t requests).records ↔
      ∀ row ∈ t, row ≠ [] → HasColumn requests row := by
  rw [Sql.Inserter.statements_filled_eq_iff, Projected.ofTable, Projection.records_onTable,
    List.forall_mem_map, List.forall_mem_filter]
  simp [Projection.cells_eq_nil_iff]

/-- **A stored projection gives a statement for every row that is not blank**, in the order of the
rows: the same one as without storing if the row has one of the columns, and otherwise one with a
single empty literal, which is missing without storing.  So both ways agree exactly if every row has
one of the columns. -/
theorem statements_stored {d : UInt8} (hd : Delimited.ProperDelimiter d)
    (hmark : ¬ Table.BeginsWithMark (Projected.ofTable t requests).records) :
    ∃ stored,
      Delimited.parse d (Delimited.print d (Projected.ofTable t requests).records) = .ok stored ∧
      (inserter.statements stored = inserter.statements (Projected.ofTable t requests).records ↔
        ∀ row ∈ t, row ≠ [] → HasColumn requests row) ∧
      inserter.statements stored
        = (t.filter (· ≠ [])).map (inserter.statementFor requests) ∧
      inserter.statements (Projected.ofTable t requests).records
        = ((t.filter (· ≠ [])).filter (HasColumn requests ·)).map
            (inserter.statementFor requests) := by
  refine ⟨_, Delimited.parse_print hd (mt Delimited.HidesMark.beginsWithMark hmark), ?_, ?_, ?_⟩
  · exact statements_filled_ofTable_eq_iff t requests inserter
  · exact statements_filled_ofTable t requests inserter
  · exact statements_ofTable t requests inserter

end

/-- Rows of which the third lacks the second column. -/
def thirdRowShort : Table := [["a", "b"], [], ["x"], ["y", "it's"]]

/-- Statements that put a fixed value behind each row. -/
def dated : Sql.Inserter where
  target := "t"
  partition := some "p"

theorem statements_stored_thirdRowShort :
    Delimited.ProperDelimiter Delimited.comma ∧
      ¬ Table.BeginsWithMark (Projected.ofTable thirdRowShort [1, -1, 1]).records ∧
      ∃ stored,
        Delimited.parse Delimited.comma (Delimited.print Delimited.comma
          (Projected.ofTable thirdRowShort [1, -1, 1]).records) = .ok stored ∧
        dated.statements stored
          = ["INSERT INTO t VALUES (DEFAULT, 'b', 'p');",
            "INSERT INTO t VALUES (DEFAULT, '', 'p');",
            "INSERT INTO t VALUES (DEFAULT, 'it''s', 'p');"] ∧
        dated.statements (Projected.ofTable thirdRowShort [1, -1, 1]).records
          = ["INSERT INTO t VALUES (DEFAULT, 'b', 'p');",
            "INSERT INTO t VALUES (DEFAULT, 'it''s', 'p');"] := by
  have hmark : ¬ Table.BeginsWithMark (Projected.ofTable thirdRowShort [1, -1, 1]).records := by
    decide +kernel
  obtain ⟨stored, hparse, -, hstored, hmemory⟩ :=
    statements_stored thirdRowShort [1, -1, 1] dated Delimited.properDelimiter_comma hmark
  exact ⟨Delimited.properDelimiter_comma, hmark, stored, hparse, hstored.trans (by decide +kernel),
    hmemory.trans (by decide +kernel)⟩

end Tabular

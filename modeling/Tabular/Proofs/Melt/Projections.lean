/-
**Melting by projections.**

Melting and projecting pick columns in different ways.  A projection looks in each row for every
column that is requested and leaves out what it does not find; a melt has divided the columns
beforehand and fills the row up.  On rows that are at least as long as the header both find the same
cells, so that a long table can be made of projections: the kept columns of the rows, and the melted
columns of the header and of the rows.

The columns of a partition are no requests of a user, but they can be requested like any others.
None is there twice, and each is a column of every such row, so a projection onto them leaves out
nothing.

Main definitions:

* `Tabular.Melt.Partition.keptPart`, `Tabular.Melt.Partition.meltedPart` — the projections of a
  table onto the kept and the melted columns;
* `Tabular.Melt.JoinsProjections` — **a long table that is made of projections**.

Main results:

* `Tabular.Projected.ofTable_map_ofNat` — a projection of rows that have all the columns;
* `Tabular.Melt.LongForm.joinsProjections_tableOf` — **melting joins projections** where no row is
  shorter than the header.
-/

import Tabular.Proofs.Melt.Cells
import Tabular.Proofs.Projection.Composition

set_option autoImplicit false

namespace Tabular

/-! ### Rows that have all columns -/

section Columns

variable {columns : List Nat} (hnodup : columns.Nodup)

include hnodup

theorem Projection.columns_map_ofNat :
    (ofRequests (columns.map Int.ofNat)).columns = columns.map Int.ofNat :=
  Column.distinct_of_nodup (hnodup.map fun _ _ => Int.ofNat.inj)

theorem Projection.cells_map_ofNat {row : Record} (h : ∀ i ∈ columns, i < row.length) :
    (ofRequests (columns.map Int.ofNat)).cells row = columns.map fun i => row.getD i "" := by
  rw [cells_eq_filterMap, columns_map_ofNat hnodup, List.filterMap_map, ← List.filterMap_eq_map]
  refine List.filterMap_congr ?_
  intro i hi
  have hcell : row.cell? (Int.ofNat i) = row[i]? := row.cell?_natCast i
  rw [Function.comp_apply, hcell, List.getElem?_eq_getElem (h i hi), Function.comp_apply,
    List.getD_eq_getElem _ _ (h i hi)]

theorem Projection.missing_map_ofNat (number : Nat) {row : Record}
    (h : ∀ i ∈ columns, i < row.length) :
    (ofRequests (columns.map Int.ofNat)).missing number row = [] := by
  by_cases hrow : row = []
  · rw [hrow, missing_nil]
  rw [missing_eq_filter _ number hrow, columns_map_ofNat hnodup, List.map_eq_nil_iff,
    List.filter_eq_nil_iff, List.forall_mem_map]
  intro i hi
  rw [decide_eq_true_iff, not_not]
  exact ⟨Int.natCast_nonneg i, Int.ofNat_lt.2 (h i hi)⟩

/-- **A projection of rows that have all the columns**: each row has its cells there, and nothing is
missing. -/
theorem Projected.ofTable_map_ofNat {t : Table} (hrow : ∀ row ∈ t, row ≠ [])
    (h : ∀ row ∈ t, ∀ i ∈ columns, i < row.length) :
    ofTable t (columns.map Int.ofNat)
      = ⟨t.map fun row => columns.map fun i => row.getD i "", []⟩ := by
  have hrecords : (ofTable t (columns.map Int.ofNat)).records
      = t.map fun row => columns.map fun i => row.getD i "" := by
    rw [ofTable, Projection.records_onTable, List.filter_eq_self.2 (by simpa using hrow)]
    exact List.map_congr_left fun row hmem => Projection.cells_map_ofNat hnodup (h row hmem)
  have hmissing : (ofTable t (columns.map Int.ofNat)).missing = [] := by
    refine List.flatMap_eq_nil_iff.2 ?_
    rintro ⟨row, number⟩ hmem
    exact Projection.missing_map_ofNat hnodup number (h row (List.fst_mem_of_mem_zipIdx hmem))
  rw [← hrecords, ← hmissing]

end Columns

namespace Melt

/-! ### The two parts of a table -/

namespace Partition

/-- The projection of a table onto the kept columns. -/
def keptPart (p : Partition) (t : Table) : Projected := Projected.ofTable t (p.kept.map Int.ofNat)

/-- The projection of a table onto the melted columns. -/
def meltedPart (p : Partition) (t : Table) : Projected :=
  Projected.ofTable t (p.melted.map Int.ofNat)

section

variable {p : Partition} (hp : p.Proper) {t : Table} (ht : ∀ row ∈ t, p.width ≤ row.length)

include hp ht

/-- No row of such a table is blank, because the header has a column that is melted. -/
theorem ne_nil_of_width_le {row : Record} (hmem : row ∈ t) : row ≠ [] := by
  have hpos : 0 < p.width := by
    have hlt := hp.length_melted_pos
    have hsum := hp.length_kept_add_length_melted
    omega
  exact List.ne_nil_of_length_pos (Nat.lt_of_lt_of_le hpos (ht row hmem))

theorem keptPart_eq : p.keptPart t = ⟨t.map fun row => p.kept.map fun i => row.getD i "", []⟩ := by
  refine Projected.ofTable_map_ofNat hp.nodup_kept (fun _ => ne_nil_of_width_le hp ht) ?_
  intro row hmem i hi
  exact Nat.lt_of_lt_of_le (hp.mem_kept_iff.1 hi).1 (ht row hmem)

theorem meltedPart_eq :
    p.meltedPart t = ⟨t.map fun row => p.melted.map fun i => row.getD i "", []⟩ := by
  refine Projected.ofTable_map_ofNat hp.nodup_melted (fun _ => ne_nil_of_width_le hp ht) ?_
  intro row hmem i hi
  exact Nat.lt_of_lt_of_le (hp.lt_width i hi) (ht row hmem)

end

end Partition

/-! ### Joining them -/

/-- **A long table that is made of projections** of the wide one, which has the column names `names`
and the rows `rows`. -/
structure JoinsProjections (names : Record) (labels : Labels) (p : Partition) (rows : Table)
    (long : LongTable) : Prop where
  missing_eq_nil : (p.keptPart rows).missing = [] ∧ (p.meltedPart rows).missing = []
  /-- Each row has a record in both projections. -/
  length_parts : (p.keptPart rows).records.length = rows.length ∧
    (p.meltedPart rows).records.length = rows.length
  length_records : long.records.length = rows.length * p.melted.length
  /-- The names of the kept columns stand in front of the new ones. -/
  header_eq : ∃ kept, (p.keptPart [names]).records = [kept] ∧
    long.header = kept ++ [labels.key, labels.value]
  /-- The record with number `j` of the row with number `r` is the projected row, the name of the
  melted column and the cell there. -/
  record_eq : ∀ r j, r < rows.length → j < p.melted.length →
    ∃ kept columns cells name cell, (p.keptPart rows).records[r]? = some kept ∧
      (p.meltedPart [names]).records = [columns] ∧ columns[j]? = some name ∧
      (p.meltedPart rows).records[r]? = some cells ∧ cells[j]? = some cell ∧
      long.records[r * p.melted.length + j]? = some (kept ++ [name, cell])

/-- **Melting joins projections** where no row is shorter than the header. -/
theorem LongForm.joinsProjections_tableOf {names : Record} {requests : List Int} {labels : Labels}
    {form : LongForm} (h : ofRequests names requests labels = .ok form) {rows : Table}
    (hrows : ∀ row ∈ rows, names.length ≤ row.length) :
    JoinsProjections names labels form.partition rows (form.tableOf rows) := by
  obtain ⟨hp, rfl, hnames⟩ := proper_of_ofRequests h
  obtain ⟨-, -, rfl⟩ := ofRequests_eq_ok h
  rw [hnames] at hrows
  have hheader : ∀ row ∈ [form.names], form.partition.width ≤ row.length := by
    simp [hnames]
  have hkept := Partition.keptPart_eq hp hrows
  have hmelted := Partition.meltedPart_eq hp hrows
  refine ⟨?_, ?_, form.length_recordsOfAll rows, ?_, ?_⟩
  · rw [hkept, hmelted]
    exact ⟨rfl, rfl⟩
  · rw [hkept, hmelted, List.length_map, List.length_map]
    exact ⟨rfl, rfl⟩
  · refine ⟨_, ?_, rfl⟩
    rw [Partition.keptPart_eq hp hheader]
    rfl
  · intro r j hr hj
    have hcell (row : Record) : (form.partition.melted.map fun i => row.getD i "")[j]?
        = some (row.getD form.partition.melted[j] "") := by
      rw [List.getElem?_map, List.getElem?_eq_getElem hj, Option.map_some]
    have hrow : rows[r]? = some rows[r] := List.getElem?_eq_getElem hr
    refine ⟨form.keptCells rows[r], _, _, _, _, ?_, ?_, hcell form.names, ?_, hcell rows[r], ?_⟩
    · rw [hkept, List.getElem?_map, hrow]
      rfl
    · rw [Partition.meltedPart_eq hp hheader]
      rfl
    · rw [hmelted, List.getElem?_map, hrow, Option.map_some]
    · exact getElem?_recordsOfAll hp hrow (List.getElem?_eq_getElem hj)

/-- Rows of which the second is longer than the header. -/
theorem LongForm.joinsProjections_tableOf_equalNames :
    ofRequests ["a", "a", "b"] [2, 0, 2] Labels.standard = .ok equalNames ∧
      (∀ row ∈ ([["1", "2", "3"], ["x", "y", "z", "w"]] : Table),
        ["a", "a", "b"].length ≤ row.length) ∧
      JoinsProjections ["a", "a", "b"] Labels.standard equalNames.partition
        [["1", "2", "3"], ["x", "y", "z", "w"]]
        ⟨["a", "k", "v"],
          [["2", "b", "3"], ["2", "a", "1"], ["y", "b", "z"], ["y", "a", "x"]]⟩ := by
  have h : ofRequests ["a", "a", "b"] [2, 0, 2] Labels.standard = .ok equalNames := by decide
  have hrows : ∀ row ∈ ([["1", "2", "3"], ["x", "y", "z", "w"]] : Table),
      ["a", "a", "b"].length ≤ row.length := by decide
  exact ⟨h, hrows, joinsProjections_tableOf h hrows⟩

end Melt

end Tabular

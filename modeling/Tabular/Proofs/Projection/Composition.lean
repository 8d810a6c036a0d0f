/-
**Projecting a projection.**

Columns of a projected table are picked by their places among the requested ones.  A column that a
row lacks is left out of its record, and what follows moves up, so that a place can name another
column in one row than in the next.  This does no harm in a row that has only the first of the
requested columns: no cell of it has moved.  Where all rows are of this kind, picking columns of the
projection is the same as requesting the columns that they stand for.

The names are exchanged before repetitions are left out on one side and after it on the other.  That
makes no difference, because the requested columns are distinct.

Main definitions:

* `Tabular.Record.HasFirst`, `Tabular.Table.HasFirst` — **a row, and a table of rows, with the first
  of some columns only**.

Main results:

* `Tabular.Projection.getElem?_cells` — in such a row the cells stand at the places of their
  columns;
* `Tabular.Projection.cells_cells` — the projection of such a row can be projected;
* `Tabular.Table.hasFirst_of_missing_eq_nil`, `Tabular.Table.hasFirst_of_ascending` — tables of such
  rows;
* `Tabular.ofTable_ofTable` — **a projection of a projection is a projection**.
-/

import Tabular.Proofs.Projection.Account

set_option autoImplicit false

namespace Tabular

/-! ### Rows with the first columns only -/

/-- **A row that has some of the columns, and these are the first ones.** -/
def Record.HasFirst (row : Record) (columns : List Int) : Prop :=
  columns.filter (row.Has ·) ≠ [] ∧ columns.filter (row.Has ·) <+: columns

instance Record.decidableHasFirst (row : Record) (columns : List Int) :
    Decidable (row.HasFirst columns) :=
  inferInstanceAs (Decidable (_ ∧ _))

/-- A table whose rows, blank ones apart, all have only the first of the columns. -/
def Table.HasFirst (t : Table) (columns : List Int) : Prop :=
  ∀ row ∈ t, row ≠ [] → row.HasFirst columns

/-- What is true of a member of a list and of all members before it is true of the first ones. -/
theorem filter_prefix_of_pairwise {α : Type} {p : α → Bool} {as : List α}
    (h : as.Pairwise fun a b => p b = true → p a = true) : as.filter p <+: as := by
  induction h with
  | nil => exact List.prefix_rfl
  | @cons a as hall _ ih =>
      cases hp : p a with
      | true =>
          rw [List.filter_cons_of_pos hp]
          exact (List.prefix_cons_inj a).2 ih
      | false =>
          have hnil : (a :: as).filter p = [] := by
            rw [List.filter_cons_of_neg (by simp [hp]), List.filter_eq_nil_iff]
            intro b hb hpb
            rw [hall b hb hpb] at hp
            cases hp
          rw [hnil]
          exact List.nil_prefix

namespace Record

theorem hasFirst_of_forall_has {row : Record} {columns : List Int} (hne : columns ≠ [])
    (h : ∀ index ∈ columns, row.Has index) : row.HasFirst columns := by
  have hall : columns.filter (row.Has ·) = columns :=
    List.filter_eq_self.2 fun index hmem => decide_eq_true (h index hmem)
  rw [HasFirst, hall]
  exact ⟨hne, List.prefix_rfl⟩

/-- Of ascending columns a row that has the first one lacks only those at the end. -/
theorem hasFirst_of_ascending {row : Record} {first : Int} {columns : List Int}
    (hascending : (first :: columns).Pairwise (· < ·)) (h : row.Has first) :
    row.HasFirst (first :: columns) := by
  refine ⟨List.ne_nil_of_mem (List.mem_filter.2 ⟨List.mem_cons_self .., decide_eq_true h⟩), ?_⟩
  have hnonneg : ∀ index ∈ first :: columns, 0 ≤ index := by
    intro index hmem
    rcases List.mem_cons.1 hmem with rfl | hmem
    · exact h.1
    · exact Int.le_trans h.1 (Int.le_of_lt (List.rel_of_pairwise_cons hascending hmem))
  refine filter_prefix_of_pairwise (hascending.imp_of_mem fun {i j} hi _ hij hj => ?_)
  rw [decide_eq_true_iff] at hj ⊢
  exact ⟨hnonneg i hi, Int.lt_trans hij hj.2⟩

theorem cell?_natCast (row : Record) (i : Nat) : row.cell? i = row[i]? := by
  rw [cell?, if_neg (Int.not_lt.2 (Int.natCast_nonneg i)), Int.toNat_natCast]

end Record

namespace Projection

variable (projection : Projection)

/-- **In a row with the first columns only, the cells stand at the places of their columns.** -/
theorem getElem?_cells {row : Record} (h : row.HasFirst projection.columns) {j : Nat}
    (hj : j < projection.columns.length) :
    (projection.cells row)[j]? = row.cell? projection.columns[j] := by
  obtain ⟨-, hfirst⟩ := h
  have hcells := projection.map_some_cells row
  have hlength : (projection.cells row).length
      = (projection.columns.filter (row.Has ·)).length := by
    rw [← List.length_map (f := some), hcells, List.length_map]
  by_cases hlt : j < (projection.columns.filter (row.Has ·)).length
  · have hcell : ((projection.cells row).map some)[j]?
        = ((projection.columns.filter (row.Has ·)).map row.cell?)[j]? := by rw [hcells]
    rw [List.getElem?_map, List.getElem?_map, List.getElem?_eq_getElem hlt, hfirst.getElem hlt,
      Option.map_some] at hcell
    obtain ⟨cell, hcell, heq⟩ := Option.map_eq_some_iff.1 hcell
    rw [hcell, heq]
  · -- the columns behind the first ones are all lacking, because no column is there twice
    have hlack : ¬ row.Has projection.columns[j] := by
      intro hhas
      have hmem : projection.columns[j] ∈ projection.columns.filter (row.Has ·) :=
        List.mem_filter.2 ⟨List.getElem_mem hj, decide_eq_true hhas⟩
      obtain ⟨i, hi, hget⟩ := List.getElem_of_mem hmem
      rw [hfirst.getElem hi] at hget
      obtain rfl : i = j := projection.nodup.getElem_inj_iff.1 hget
      exact hlt hi
    rw [(row.cell?_eq_none_iff _).2 hlack, List.getElem?_eq_none_iff]
    omega

theorem cells_ne_nil {row : Record} (h : row.HasFirst projection.columns) :
    projection.cells row ≠ [] := by
  intro hnil
  have hcells := projection.map_some_cells row
  rw [hnil, List.map_nil, eq_comm, List.map_eq_nil_iff] at hcells
  exact h.1 hcells

/-! ### Picking columns of a projection -/

section

variable (requests : List Int) (picks : List (Fin (Column.distinct requests).length))

/-- The places of a projection that are picked, as requests. -/
def picked : Projection := ofRequests (picks.map fun j => (j.val : Int))

/-- The columns that are picked. -/
def meant : Projection := ofRequests (picks.map (Column.distinct requests).get)

theorem columns_picked :
    (picked requests picks).columns = picks.eraseDups.map fun j => (j.val : Int) :=
  Column.distinct_map fun _ _ _ _ h => Fin.ext (Int.ofNat_inj.1 h)

theorem columns_meant :
    (meant requests picks).columns = picks.eraseDups.map (Column.distinct requests).get :=
  Column.distinct_map fun _ _ _ _ h =>
    Fin.ext ((Column.nodup_distinct requests).getElem_inj_iff.1 h)

variable {requests}

/-- **The projection of a row with the first columns only can be projected.** -/
theorem cells_cells {row : Record} (h : row.HasFirst (Column.distinct requests)) :
    (picked requests picks).cells ((ofRequests requests).cells row)
      = (meant requests picks).cells row := by
  rw [(picked requests picks).cells_eq_filterMap, (meant requests picks).cells_eq_filterMap,
    columns_picked, columns_meant, List.filterMap_map, List.filterMap_map]
  refine List.filterMap_congr ?_
  intro j _
  rw [Function.comp_apply, Function.comp_apply, Record.cell?_natCast]
  exact (ofRequests requests).getElem?_cells h j.isLt

/-- Both ways lack the same number of columns. -/
theorem length_missing_cells {row : Record} (hrow : row ≠ [])
    (h : row.HasFirst (Column.distinct requests)) (number other : Nat) :
    ((picked requests picks).missing number ((ofRequests requests).cells row)).length
      = ((meant requests picks).missing other row).length := by
  have hpicked := (picked requests picks).length_cells_add_length_missing number
    ((ofRequests requests).cells_ne_nil h)
  have hmeant := (meant requests picks).length_cells_add_length_missing other hrow
  rw [cells_cells picks h, columns_picked, List.length_map] at hpicked
  rw [columns_meant, List.length_map] at hmeant
  omega

end

end Projection

/-! ### Tables -/

namespace Table

variable {t : Table} {requests : List Int}

/-- Where nothing is missing, every row has all columns. -/
theorem hasFirst_of_missing_eq_nil (hne : requests ≠ [])
    (h : (Projected.ofTable t requests).missing = []) : t.HasFirst (Column.distinct requests) := by
  intro row hmem hrow
  obtain ⟨place, hplace⟩ := List.mem_iff_getElem?.1 hmem
  have hnone := (Projection.ofRequests requests).notesOn_missing_onTable hplace
  change (Projected.ofTable t requests).missing.filter _ = _ at hnone
  rw [h, List.filter_nil] at hnone
  refine Record.hasFirst_of_forall_has ?_ fun index hindex => ?_
  · obtain ⟨index, hindex⟩ := List.exists_mem_of_ne_nil requests hne
    exact List.ne_nil_of_mem (Column.mem_distinct.2 hindex)
  · by_contra hlack
    obtain ⟨note, hnote, -⟩ := ((Projection.ofRequests requests).exists_mem_missing_iff
      (place + 1) hrow index).2 ⟨hindex, hlack⟩
    rw [← hnone] at hnote
    cases hnote

theorem hasFirst_of_ascending (hascending : (Column.distinct requests).Pairwise (· < ·))
    {first : Int} (hfirst : (Column.distinct requests).head? = some first)
    (h : ∀ row ∈ t, row ≠ [] → row.Has first) : t.HasFirst (Column.distinct requests) := by
  intro row hmem hrow
  obtain ⟨columns, hcolumns⟩ := List.head?_eq_some_iff.1 hfirst
  rw [hcolumns] at hascending ⊢
  exact Record.hasFirst_of_ascending hascending (h row hmem hrow)

/-- No row of such a table is left without cells. -/
theorem records_ofTable_filter (h : t.HasFirst (Column.distinct requests)) :
    (Projected.ofTable t requests).records.filter (· ≠ [])
      = (Projected.ofTable t requests).records := by
  rw [Projected.ofTable, Projection.records_onTable, List.filter_eq_self, List.forall_mem_map]
  intro row hmem
  obtain ⟨hmem, hrow⟩ := List.mem_filter.1 hmem
  exact decide_eq_true ((Projection.ofRequests requests).cells_ne_nil
    (h row hmem (of_decide_eq_true hrow)))

end Table

/-- **A projection of a projection is a projection**, where all rows have only the first of the
requested columns.  So it is where the first projection leaves nothing out, and where the columns
ascend and every row has the first of them.  The picks stand for columns of the table, which may be
requested directly; both ways give the same records, and in each row they miss the same number of
columns. -/
theorem ofTable_ofTable (t : Table) (requests : List Int) :
    (requests ≠ [] → (Projected.ofTable t requests).missing = [] →
        t.HasFirst (Column.distinct requests)) ∧
      (∀ first, (Column.distinct requests).Pairwise (· < ·) →
        (Column.distinct requests).head? = some first →
        (∀ row ∈ t, row ≠ [] → row.Has first) → t.HasFirst (Column.distinct requests)) ∧
      (t.HasFirst (Column.distinct requests) →
        ∀ picks : List (Fin (Column.distinct requests).length),
          (Projected.ofTable (Projected.ofTable t requests).records
              (picks.map fun j => (j.val : Int))).records
            = (Projected.ofTable t (picks.map (Column.distinct requests).get)).records ∧
          ∀ place row, t[place]? = some row → row ≠ [] →
            (notesOn (Projected.ofTable (Projected.ofTable t requests).records
                (picks.map fun j => (j.val : Int))).missing (t.recordsBefore place + 1)).length
              = (notesOn (Projected.ofTable t
                (picks.map (Column.distinct requests).get)).missing (place + 1)).length) := by
  refine ⟨Table.hasFirst_of_missing_eq_nil, ?_, ?_⟩
  · intro first hascending hfirst hrows
    exact Table.hasFirst_of_ascending hascending hfirst hrows
  intro h picks
  have hrecords : (Projected.ofTable t requests).records
      = (t.filter (· ≠ [])).map (Projection.ofRequests requests).cells :=
    (Projection.ofRequests requests).records_onTable t
  constructor
  · calc (Projected.ofTable (Projected.ofTable t requests).records
            (picks.map fun j => (j.val : Int))).records
        = (Projected.ofTable t requests).records.map (Projection.picked requests picks).cells := by
          rw [Projected.ofTable, Projection.records_onTable, Table.records_ofTable_filter h]
          rfl
      _ = (t.filter (· ≠ [])).map (Projection.meant requests picks).cells := by
          rw [hrecords, List.map_map]
          refine List.map_congr_left fun row hmem => ?_
          obtain ⟨hmem, hrow⟩ := List.mem_filter.1 hmem
          exact Projection.cells_cells picks (h row hmem (of_decide_eq_true hrow))
      _ = (Projected.ofTable t (picks.map (Column.distinct requests).get)).records :=
          ((Projection.meant requests picks).records_onTable t).symm
  · intro place row hplace hrow
    have hfirst := h row (List.mem_of_getElem? hplace) hrow
    have hrecord : (Projected.ofTable t requests).records[t.recordsBefore place]?
        = some ((Projection.ofRequests requests).cells row) := by
      rw [hrecords, Table.getElem?_map_filter hplace hrow]
    have hpicked := (Projection.picked requests picks).notesOn_missing_onTable hrecord
    have hmeant := (Projection.meant requests picks).notesOn_missing_onTable hplace
    exact (congrArg List.length hpicked).trans
      ((Projection.length_missing_cells picks hrow hfirst _ _).trans
        (congrArg List.length hmeant).symm)

/-- Rows that lack the last of three columns, and one that lacks two; columns picked twice. -/
theorem ofTable_ofTable_shortRows :
    (∀ row ∈ ([["a", "b", "c"], [], ["x", "y"], ["z", "w"]] : Table), row ≠ [] → row.Has 0) ∧
      (Projected.ofTable [["a", "b", "c"], [], ["x", "y"], ["z", "w"]] [0, 1, 0, 5]).records
        = [["a", "b"], ["x", "y"], ["z", "w"]] ∧
      (Projected.ofTable [["a", "b"], ["x", "y"], ["z", "w"]] [2, 1, 0, 1]).records
        = (Projected.ofTable [["a", "b", "c"], [], ["x", "y"], ["z", "w"]] [5, 1, 0, 1]).records ∧
      (notesOn (Projected.ofTable [["a", "b"], ["x", "y"], ["z", "w"]] [2, 1, 0, 1]).missing
          2).length
        = (notesOn (Projected.ofTable [["a", "b", "c"], [], ["x", "y"], ["z", "w"]]
          [5, 1, 0, 1]).missing 3).length := by
  let t : Table := [["a", "b", "c"], [], ["x", "y"], ["z", "w"]]
  have hrows : ∀ row ∈ t, row ≠ [] → row.Has 0 := by decide
  have hrecords : (Projected.ofTable t [0, 1, 0, 5]).records
      = [["a", "b"], ["x", "y"], ["z", "w"]] := by decide
  obtain ⟨-, hascending, hpicks⟩ := ofTable_ofTable t [0, 1, 0, 5]
  obtain ⟨hsame, hmissing⟩ := hpicks (hascending 0 (by decide) (by decide) hrows)
    [⟨2, by decide⟩, ⟨1, by decide⟩, ⟨0, by decide⟩, ⟨1, by decide⟩]
  rw [hrecords] at hsame hmissing
  exact ⟨hrows, hrecords, hsame, hmissing 2 ["x", "y"] rfl (by decide)⟩

end Tabular

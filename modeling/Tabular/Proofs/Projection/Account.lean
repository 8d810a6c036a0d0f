/-
**A projection accounts for every requested cell.**

A projection fills two lists, the records and the notes, and skips differently in them: a blank row
has a number but neither a record nor notes, and a column that a row lacks has a note but no cell.
Both lists are put together again here.  For each row that is not blank every requested column gives
either a cell of its record or a note with its number, and the notes alone tell which.

Main definitions:

* `Tabular.Record.Has`, `Tabular.Record.cell?` — whether a row has a column, and its cell there;
* `Tabular.Table.recordsBefore`, `Tabular.notesOn` — the place of the record of a row, and the notes
  on the row;
* `Tabular.Noted` — a column that notes say a row lacks;
* `Tabular.Accounts` — **a record and notes that account for the columns of a row**.

Main results:

* `Tabular.Projection.map_some_cells` — the cells of a row are those at the columns that it has;
* `Tabular.Projection.length_cells_add_length_missing` — each column gives a cell or a note;
* `Tabular.Projection.notesOn_missing_onTable` — the notes with the number of a row are those on it;
* `Tabular.ofTable_accounts` — **the records and notes of a projection account for every requested
  column of every row**.
-/

import Tabular.Proofs.Projection.LineNumbers
import Tabular.Proofs.Projection.Stored

set_option autoImplicit false

namespace Tabular

/-! ### One row -/

namespace Record

/-- Whether a row has a column. -/
def Has (row : Record) (index : Int) : Prop := 0 ≤ index ∧ index < row.length

instance decidableHas (row : Record) (index : Int) : Decidable (row.Has index) :=
  inferInstanceAs (Decidable (_ ∧ _))

/-- The cell of a row at a column, if the row has the column. -/
def cell? (row : Record) (index : Int) : Option String :=
  if index < 0 then none else row[index.toNat]?

theorem cell?_eq_none_iff (row : Record) (index : Int) :
    row.cell? index = none ↔ ¬ row.Has index := by
  rw [cell?, Has]
  split
  · simp only [true_iff]
    omega
  · rw [List.getElem?_eq_none_iff]
    omega

theorem isSome_cell?_iff (row : Record) (index : Int) :
    (row.cell? index).isSome ↔ row.Has index := by
  rw [← not_iff_not, Option.not_isSome_iff_eq_none, cell?_eq_none_iff]

end Record

namespace Projection

variable (projection : Projection)

theorem cells_eq_filterMap (row : Record) :
    projection.cells row = projection.columns.filterMap row.cell? :=
  projection.cells_eq_inRange row

/-- **The cells of a row are those at the columns that it has**, in the order of the columns. -/
theorem map_some_cells (row : Record) :
    (projection.cells row).map some = (projection.columns.filter (row.Has ·)).map row.cell? := by
  rw [cells_eq_filterMap, List.map_filterMap_some_eq_filter_map_isSome, List.filter_map]
  congr 1
  refine List.filter_congr ?_
  intro index _
  rw [Bool.eq_iff_iff, Function.comp_apply, row.isSome_cell?_iff, decide_eq_true_iff]

theorem missing_eq_filter (number : Nat) {row : Record} (hrow : row ≠ []) :
    projection.missing number row
      = (projection.columns.filter (¬ row.Has ·)).map fun index => ⟨number, index, row.length⟩ := by
  rw [missing_eq_outOfRange projection number hrow, outOfRange]
  congr 1
  refine List.filter_congr ?_
  intro index _
  rw [decide_eq_decide, Record.Has]
  omega

/-- **Each column gives a cell or a note.** -/
theorem length_cells_add_length_missing (number : Nat) {row : Record} (hrow : row ≠ []) :
    (projection.cells row).length + (projection.missing number row).length
      = projection.columns.length := by
  have hcells := congrArg List.length (projection.map_some_cells row)
  rw [List.length_map, List.length_map] at hcells
  have hsplit := List.length_eq_length_filter_add (l := projection.columns) (row.Has ·)
  rw [hcells, projection.missing_eq_filter number hrow, List.length_map, hsplit]
  simp only [decide_not]

theorem row_of_mem_missing {number : Nat} {row : Record} {note : MissingColumn}
    (h : note ∈ projection.missing number row) : note.row = number := by
  rw [missing] at h
  split at h
  · cases h
  · obtain ⟨index, -, rfl⟩ := List.mem_map.1 h
    rfl

/-- A column has a note exactly if the row lacks it. -/
theorem exists_mem_missing_iff (number : Nat) {row : Record} (hrow : row ≠ []) (index : Int) :
    (∃ note ∈ projection.missing number row, note.index = index) ↔
      index ∈ projection.columns ∧ ¬ row.Has index := by
  rw [projection.missing_eq_filter number hrow]
  simp

theorem pairwise_missing (number : Nat) (row : Record) :
    (projection.missing number row).Pairwise fun note other => note.index ≠ other.index := by
  rw [missing]
  split
  · exact List.Pairwise.nil
  · exact List.pairwise_map.2 (projection.nodup.filter _)

end Projection

/-! ### Rows, records and notes by number -/

/-- Those notes that are on the row with a given number. -/
def notesOn (notes : List MissingColumn) (number : Nat) : List MissingColumn :=
  notes.filter (·.row = number)

namespace Table

/-- The number of records that come before the record of the row with a given place: the rows in
front of it that are not blank. -/
def recordsBefore (t : Table) (place : Nat) : Nat := (t.take place).countP (· ≠ [])

/-- A table before, at and behind a row. -/
theorem take_append_cons_drop {t : Table} {place : Nat} {row : Record} (h : t[place]? = some row) :
    t.take place ++ row :: t.drop (place + 1) = t := by
  obtain ⟨hlt, rfl⟩ := List.getElem?_eq_some_iff.1 h
  rw [← List.drop_eq_getElem_cons hlt, List.take_append_drop]

/-- What is made of the rows that are not blank stands at the places of the records. -/
theorem getElem?_map_filter {α : Type} {t : Table} {place : Nat} {row : Record}
    (h : t[place]? = some row) (hrow : row ≠ []) (f : Record → α) :
    ((t.filter (· ≠ [])).map f)[t.recordsBefore place]? = some (f row) := by
  have hsplit : (t.filter (· ≠ [])).map f
      = ((t.take place).filter (· ≠ [])).map f
        ++ f row :: ((t.drop (place + 1)).filter (· ≠ [])).map f := by
    rw [← take_append_cons_drop h, List.filter_append, List.map_append,
      List.filter_cons_of_pos (by simpa using hrow), List.map_cons, take_append_cons_drop h]
  have hlength : (((t.take place).filter (· ≠ [])).map f).length = t.recordsBefore place := by
    rw [List.length_map, recordsBefore, List.countP_eq_length_filter]
  rw [hsplit, List.getElem?_append_right (Nat.le_of_eq hlength), hlength, Nat.sub_self]
  rfl

end Table

namespace Projection

variable (projection : Projection)

/-- **The notes with the number of a row are those on the row.** -/
theorem notesOn_missing_onTable {t : Table} {place : Nat} {row : Record}
    (h : t[place]? = some row) :
    notesOn (projection.onTable t).missing (place + 1) = projection.missing (place + 1) row := by
  have hlength : (t.take place).length = place := by
    rw [List.length_take_of_le (Nat.le_of_lt (List.getElem?_eq_some_iff.1 h).1)]
  -- the notes on a row with another number drop out, and those on the row itself all stay
  have hother : ∀ numbered : Record × Nat, numbered.2 ≠ place + 1 →
      (projection.missing numbered.2 numbered.1).filter (·.row = place + 1) = [] := by
    intro numbered hne
    refine List.filter_eq_nil_iff.2 fun note hnote => ?_
    rwa [decide_eq_true_iff, projection.row_of_mem_missing hnote]
  have hself : (projection.missing (place + 1) row).filter (·.row = place + 1)
      = projection.missing (place + 1) row := by
    refine List.filter_eq_self.2 fun note hnote => ?_
    rw [decide_eq_true_iff, projection.row_of_mem_missing hnote]
  have hfront : ((t.take place).zipIdx 1).flatMap (fun numbered =>
      (projection.missing numbered.2 numbered.1).filter (·.row = place + 1)) = [] := by
    refine List.flatMap_eq_nil_iff.2 fun numbered hmem => hother numbered ?_
    have hlt := List.snd_lt_of_mem_zipIdx hmem
    omega
  have hback : ((t.drop (place + 1)).zipIdx (1 + place + 1)).flatMap (fun numbered =>
      (projection.missing numbered.2 numbered.1).filter (·.row = place + 1)) = [] := by
    refine List.flatMap_eq_nil_iff.2 fun numbered hmem => hother numbered ?_
    have hle := List.le_snd_of_mem_zipIdx hmem
    omega
  change ((t.zipIdx 1).flatMap fun numbered =>
    projection.missing numbered.2 numbered.1).filter (·.row = place + 1) = _
  rw [List.filter_flatMap, ← Table.take_append_cons_drop h, List.zipIdx_append, List.zipIdx_cons,
    List.flatMap_append, List.flatMap_cons, hlength, hfront, hback, List.nil_append,
    List.append_nil, Nat.add_comm 1 place, hself]

/-- No two notes are on the same column of the same row. -/
theorem pairwise_missing_onTable (t : Table) :
    (projection.onTable t).missing.Pairwise fun note other =>
      note.row = other.row → note.index ≠ other.index := by
  have hnumbers : (t.zipIdx 1).Pairwise fun numbered other => numbered.2 < other.2 := by
    rw [← List.pairwise_map (f := Prod.snd) (R := fun i j : Nat => i < j), List.zipIdx_map_snd]
    exact List.pairwise_lt_range' 1
  refine List.pairwise_flatMap.2 ⟨?_, ?_⟩
  · rintro ⟨row, number⟩ _
    refine (projection.pairwise_missing number row).imp ?_
    intro note other hne _
    exact hne
  · refine hnumbers.imp fun hlt note hnote other hother heq => ?_
    rw [projection.row_of_mem_missing hnote, projection.row_of_mem_missing hother] at heq
    exact absurd heq (Nat.ne_of_lt hlt)

end Projection

/-! ### The account -/

/-- A column that the row with a given number lacks, as notes say. -/
def Noted (notes : List MissingColumn) (number : Nat) (index : Int) : Prop :=
  ∃ note ∈ notesOn notes number, note.index = index

instance decidableNoted (notes : List MissingColumn) (number : Nat) (index : Int) :
    Decidable (Noted notes number index) :=
  inferInstanceAs (Decidable (∃ note ∈ notesOn notes number, note.index = index))

/-- **A record and notes that account for the columns of a row** with a given number. -/
structure Accounts (columns : List Int) (number : Nat) (row record : Record)
    (notes : List MissingColumn) : Prop where
  /-- There are as many cells and notes as columns. -/
  length_eq : record.length + (notesOn notes number).length = columns.length
  /-- The cells are those of the row at the columns without a note, in order. -/
  cells_eq : record.map some = (columns.filter (¬ Noted notes number ·)).map row.cell?

/-- The record of a row and all notes of its table account for the row. -/
theorem Projection.accounts (projection : Projection) {t : Table} {place : Nat} {row : Record}
    (h : t[place]? = some row) (hrow : row ≠ []) :
    Accounts projection.columns (place + 1) row (projection.cells row)
      (projection.onTable t).missing := by
  have hnotes := projection.notesOn_missing_onTable h
  have hnoted : ∀ index, Noted (projection.onTable t).missing (place + 1) index ↔
      index ∈ projection.columns ∧ ¬ row.Has index := by
    intro index
    rw [← projection.exists_mem_missing_iff (place + 1) hrow, ← hnotes, Noted]
  refine ⟨?_, ?_⟩
  · rw [hnotes, projection.length_cells_add_length_missing _ hrow]
  · rw [projection.map_some_cells]
    congr 1
    refine List.filter_congr ?_
    intro index hmem
    rw [decide_eq_decide, hnoted, not_and_not_right]
    exact ⟨fun hhas _ => hhas, fun hhas => hhas hmem⟩

/-- **The records and notes of a projection account for every requested column of every row.**  Each
row that is not blank has a record, with its cells at those columns that it has, and notes on the
others; the two together are as many as the columns, no column of a row is noted twice, and the
cells stand for the columns without a note.  Of the requests only the order in which they are first
made matters. -/
theorem ofTable_accounts (t : Table) (requests : List Int) :
    (Projected.ofTable t requests).records
        = (t.filter (· ≠ [])).map (inRange (Column.distinct requests)) ∧
      (Projected.ofTable t requests).missing
        = ((t.zipIdx 1).flatMap fun (row, number) =>
            if row = [] then [] else outOfRange (Column.distinct requests) number row) ∧
      (∀ place row, t[place]? = some row → row ≠ [] →
        ∃ record, (Projected.ofTable t requests).records[t.recordsBefore place]? = some record ∧
          Accounts (Column.distinct requests) (place + 1) row record
            (Projected.ofTable t requests).missing) ∧
      ((Projected.ofTable t requests).missing.Pairwise fun note other =>
        note.row = other.row → note.index ≠ other.index) ∧
      ∀ others, Column.FirstRequests others (Column.distinct requests) →
        Projected.ofTable t others = Projected.ofTable t requests := by
  let projection := Projection.ofRequests requests
  have hrecords : (Projected.ofTable t requests).records
      = (t.filter (· ≠ [])).map projection.cells := projection.records_onTable t
  refine ⟨?_, ?_, ?_, projection.pairwise_missing_onTable t, ?_⟩
  · rw [hrecords]
    exact List.map_congr_left fun row _ => projection.cells_eq_inRange row
  · refine List.flatMap_congr ?_
    rintro ⟨row, number⟩ _
    dsimp only
    by_cases hrow : row = []
    · rw [if_pos hrow, hrow]
      rfl
    · rw [if_neg hrow]
      exact projection.missing_eq_outOfRange number hrow
  · intro place row h hrow
    refine ⟨projection.cells row, ?_, projection.accounts h hrow⟩
    rw [hrecords, Table.getElem?_map_filter h hrow]
  · intro others h
    have hsame : Projection.ofRequests others = projection := by
      simp only [projection, Projection.ofRequests, h.eq_distinct]
    rw [Projected.ofTable, hsame]
    rfl

/-- A short row behind a blank one, with a column below 0 and one that is requested twice. -/
theorem ofTable_accounts_thirdRowShort :
    thirdRowShort[2]? = some ["x"] ∧ thirdRowShort.recordsBefore 2 = 1 ∧
      (Projected.ofTable thirdRowShort [1, -1, 1, 0]).records
        = [["b", "a"], ["x"], ["it's", "y"]] ∧
      (Projected.ofTable thirdRowShort [1, -1, 1, 0]).missing
        = [⟨1, -1, 2⟩, ⟨3, 1, 1⟩, ⟨3, -1, 1⟩, ⟨4, -1, 2⟩] ∧
      (∃ record,
        (Projected.ofTable thirdRowShort [1, -1, 1, 0]).records[thirdRowShort.recordsBefore 2]?
          = some record ∧
        Accounts [1, -1, 0] 3 ["x"] record
          (Projected.ofTable thirdRowShort [1, -1, 1, 0]).missing) ∧
      Projected.ofTable thirdRowShort [1, 1, -1, 0, -1]
        = Projected.ofTable thirdRowShort [1, -1, 1, 0] := by
  obtain ⟨hrecords, hmissing, hrows, -, hsame⟩ := ofTable_accounts thirdRowShort [1, -1, 1, 0]
  have hfirst : Column.FirstRequests [1, 1, -1, 0, -1] (Column.distinct [1, -1, 1, 0]) := by
    have hdistinct : Column.distinct [1, -1, 1, 0] = Column.distinct [1, 1, -1, 0, -1] := by decide
    rw [hdistinct]
    exact Column.firstRequests_distinct _
  exact ⟨rfl, by decide, hrecords.trans (by decide), hmissing.trans (by decide),
    hrows 2 ["x"] rfl (by decide), hsame _ hfirst⟩

end Tabular

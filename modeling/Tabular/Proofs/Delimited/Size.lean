/-
**A table is no larger than its text.**

Records and blank lines are found by two scans of the same bytes, so that it is not plain to see
that no byte counts twice.  The pass over the text sees every byte once.  A byte ends a line, ends a
cell, belongs to a cell, or is a quote that leaves no trace: in each case what the pass has given
out and what it still holds grow together by at most one row, one cell and one byte.  Only the end
of the text gives out a cell that no byte has ended.

Main definitions:

* `Tabular.Delimited.PassState.heldRows`, `Tabular.Delimited.PassState.heldCells`,
  `Tabular.Delimited.PassState.heldBytes` — what the pass is still to give out for the bytes that it
  has read;
* `Tabular.Delimited.Fits` — **rows that fit in a number of bytes**.

Main results:

* `Tabular.Delimited.size_step`, `Tabular.Delimited.size_run` — one byte, and all of them;
* `Tabular.Delimited.fits_lines` — the lines of a text fit in it;
* `Tabular.Delimited.size_le_of_parse` — **a table fits in the text that it is read from**.
-/

import Mathlib.Algebra.Order.Ring.Nat
import Mathlib.Data.List.Flatten
import Tabular.Proofs.Delimited.OnePass

set_option autoImplicit false

namespace Tabular

namespace Delimited

/-! ### What the pass holds -/

namespace PassState

/-- The record that has been begun. -/
@[simp] def heldRows : PassState → Nat
  | .lineStart _ => 0
  | .inRecord _ _ _ => 1

/-- The cells of the record that has been begun, or the first cell of the next one. -/
@[simp] def heldCells : PassState → Nat
  | .lineStart _ => 1
  | .inRecord _ _ cells => cells.length + 1

/-- The bytes of the cells. -/
@[simp] def heldBytes : PassState → Nat
  | .lineStart _ => 0
  | .inRecord _ cell cells => cells.flatten.length + cell.length

end PassState

/-- The cells of a list of events, row by row. -/
def rowsOf (events : List Event) : List (List Bytes) := events.map Event.cells

@[simp] theorem rowsOf_nil : rowsOf [] = [] := rfl

@[simp] theorem rowsOf_cons (event : Event) (events : List Event) :
    rowsOf (event :: events) = event.cells :: rowsOf events := rfl

@[simp] theorem rowsOf_append (events others : List Event) :
    rowsOf (events ++ others) = rowsOf events ++ rowsOf others := List.map_append

/-! ### One byte -/

/-- What a byte inside a record gives out and leaves to be held. -/
theorem size_stepRecord (d : UInt8) (mode : Mode) (cell : Bytes) (cells : List Bytes) (b : UInt8) :
    let result := PassState.stepRecord d mode cell cells b
    (rowsOf result.1.toList).length + result.2.heldRows = 1 ∧
      (rowsOf result.1.toList).flatten.length + result.2.heldCells ≤ cells.length + 2 ∧
      (rowsOf result.1.toList).flatten.flatten.length + result.2.heldBytes
        ≤ cells.flatten.length + cell.length + 1 := by
  rw [PassState.stepRecord]
  cases mode.move d b with
  | append next => simp; omega
  | skip next => simp
  | endCell => simp
  | endRecord => simp [Event.cells]

/-- **One step** gives out and holds at most one row, one cell and one byte more. -/
theorem size_step (d : UInt8) (state : PassState) (b : UInt8) :
    let result := state.step d b
    (rowsOf result.1.toList).length + result.2.heldRows ≤ state.heldRows + 1 ∧
      (rowsOf result.1.toList).flatten.length + result.2.heldCells ≤ state.heldCells + 1 ∧
      (rowsOf result.1.toList).flatten.flatten.length + result.2.heldBytes
        ≤ state.heldBytes + 1 := by
  cases state with
  | lineStart afterReturn =>
      rw [PassState.step]
      split
      · cases afterReturn <;> simp [Event.cells]
      · split
        · simp [Event.cells]
        · obtain ⟨hrows, hcells, hbytes⟩ := size_stepRecord d .cellStart [] [] b
          exact ⟨Nat.le_of_eq hrows, hcells, hbytes⟩
  | inRecord mode cell cells =>
      obtain ⟨hrows, hcells, hbytes⟩ := size_stepRecord d mode cell cells b
      exact ⟨Nat.le_succ_of_le (Nat.le_of_eq hrows), hcells, hbytes⟩

/-! ### All bytes -/

/-- **The whole pass** gives out no more than it holds at first and the bytes that it reads. -/
theorem size_run (d : UInt8) (state : PassState) (bs : Bytes) :
    let rows := rowsOf (PassState.run d state bs)
    rows.length ≤ state.heldRows + bs.length ∧
      rows.flatten.length ≤ state.heldCells + bs.length ∧
      rows.flatten.flatten.length ≤ state.heldBytes + bs.length := by
  induction bs generalizing state with
  | nil => cases state <;> simp [PassState.finish, Event.cells]
  | cons b bs ih =>
      obtain ⟨hrows, hcells, hbytes⟩ := size_step d state b
      obtain ⟨hrows', hcells', hbytes'⟩ := ih (state.step d b).2
      simp only [PassState.run_cons, rowsOf_append, List.flatten_append, List.length_append,
        List.length_cons]
      omega

/-- **Rows that fit in a number of bytes**: as many cells as there are places between the bytes and
at both ends, and no more rows, and no more bytes in the cells, than there are bytes. -/
structure Fits (rows : List (List Bytes)) (size : Nat) : Prop where
  length_le : rows.length ≤ size
  cells_le : rows.flatten.length ≤ size + 1
  bytes_le : rows.flatten.flatten.length ≤ size

theorem Fits.of_sublist {rows others : List (List Bytes)} {size bound : Nat} (h : Fits others size)
    (hrows : rows.Sublist others) (hsize : size ≤ bound) : Fits rows bound where
  length_le := hrows.length_le.trans (h.length_le.trans hsize)
  cells_le := hrows.flatten.length_le.trans (h.cells_le.trans (Nat.succ_le_succ hsize))
  bytes_le := hrows.flatten.flatten.length_le.trans (h.bytes_le.trans hsize)

theorem fits_onePass (d : UInt8) (text : Bytes) : Fits (rowsOf (onePass d text)) text.length := by
  obtain ⟨hrows, hcells, hbytes⟩ := size_run d (.lineStart false) text
  rw [PassState.heldRows, Nat.zero_add] at hrows
  rw [PassState.heldCells, Nat.add_comm] at hcells
  rw [PassState.heldBytes, Nat.zero_add] at hbytes
  exact ⟨hrows, hcells, hbytes⟩

/-- The lines of a text fit in it, also where a mark hides the blank lines in front. -/
theorem fits_lines (d : UInt8) (text : Bytes) :
    Fits ((lines d text).map Line.cells) text.length := by
  by_cases h : Utf8.mark <+: text
  · obtain ⟨rest, rfl⟩ := h
    have hrows : (rowsOf (fromRecord d rest)).Sublist (rowsOf (onePass d rest)) := by
      rw [onePass, run_lineStart, rowsOf_append]
      exact List.sublist_append_right ..
    rw [cells_lines_mark_append]
    exact (fits_onePass d rest).of_sublist hrows (by simp)
  · rw [cells_lines d h]
    exact fits_onePass d text

/-- **A table fits in the text that it is read from**: it has no more records, and no more bytes in
its cells, than the text has bytes, and at most one cell more. -/
theorem size_le_of_parse {d : UInt8} {source : Bytes} {t : Table} (h : parse d source = .ok t) :
    t.length ≤ (Utf8.dropMark source).length ∧
      t.flatten.length ≤ (Utf8.dropMark source).length + 1 ∧
      (t.flatten.map fun cell => (Utf8.encode cell).length).sum
        ≤ (Utf8.dropMark source).length := by
  have hfits : Fits t.bytes (Utf8.dropMark source).length :=
    (parse_eq_ok_iff d source t).1 h ▸ fits_lines d (Utf8.dropMark source)
  have hflatten : t.bytes.flatten = t.flatten.map Utf8.encode := List.map_flatten.symm
  refine ⟨?_, ?_, ?_⟩
  · simpa [Table.bytes] using hfits.length_le
  · simpa only [hflatten, List.length_map] using hfits.cells_le
  · simpa only [hflatten, List.length_flatten, List.map_map, Function.comp_def] using hfits.bytes_le

end Delimited

end Tabular

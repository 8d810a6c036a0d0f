/-
**A printed text stands for one table only.**

That a printed table is read back as it was would show that no other table is printed like it, but
it is not always read back: where the first cell begins with U+FEFF the character is taken for a
byte order mark.  The character is lost by the reader, not by the printer.  The pass over the bytes,
which knows of no mark, finds every cell of a printed table, and so it tells any two tables apart;
only a record without cells is printed like a record of one empty cell.

The same holds of the beginning of a printed table: if it is a printed table itself, it is that of
the first records.

Main definitions:

* `Tabular.Record.Alike` — **records that are printed alike**.

Main results:

* `Tabular.Delimited.print_filled` — records without cells are printed like records of one empty
  cell;
* `Tabular.Delimited.print_isPrefix_print_iff` — a printed table continues another one exactly if
  its records do;
* `Tabular.Delimited.print_eq_print_iff` — **tables are printed alike exactly if their records are
  alike, one by one**.
-/

import Mathlib.Data.List.Forall2
import Tabular.Proofs.Delimited.RoundTrip

set_option autoImplicit false

namespace Tabular

/-! ### Records that are printed alike -/

/-- **Records that are printed alike**: the same cells, or no cell and one empty cell. -/
def Record.Alike (record other : Record) : Prop :=
  record = other ∨ record = [] ∧ other = [""] ∨ record = [""] ∧ other = []

instance Record.decidableAlike (record other : Record) : Decidable (record.Alike other) :=
  inferInstanceAs (Decidable (_ ∨ _))

theorem Record.filled_eq_filled_iff (record other : Record) :
    record.filled = other.filled ↔ record.Alike other := by
  rw [filled, filled, Alike]
  by_cases hrecord : record = [] <;> by_cases hother : other = []
  · simp [hrecord, hother]
  · rw [if_pos hrecord, if_neg hother, hrecord]
    simp only [List.nil_eq, hother, true_and, reduceCtorEq, false_and, or_false, false_or]
    exact eq_comm
  · rw [if_neg hrecord, if_pos hother, hother]
    simp [hrecord]
  · rw [if_neg hrecord, if_neg hother]
    simp [hrecord, hother]

theorem Table.filled_eq_filled_iff (t u : Table) :
    t.filled = u.filled ↔ List.Forall₂ Record.Alike t u := by
  rw [filled, filled, ← List.forall₂_eq_eq_eq, List.forall₂_map_left_iff,
    List.forall₂_map_right_iff]
  simp only [Record.filled_eq_filled_iff]

namespace Delimited

theorem printRecord_filled (d : UInt8) (record : Record) :
    printRecord d record.filled = printRecord d record := by
  cases record with
  | nil => rfl
  | cons => rfl

/-- **Records without cells are printed like records of one empty cell.** -/
theorem print_filled (d : UInt8) (t : Table) : print d t.filled = print d t := by
  rw [print, Table.filled, List.flatMap_map]
  exact List.flatMap_congr fun record _ => printRecord_filled d record

/-! ### What a printed text stands for -/

section

variable {d : UInt8} (hd : ProperDelimiter d)

include hd

/-- A printed table that begins with another one has its records in front. -/
theorem filled_isPrefix_of_print_isPrefix {t u : Table} (h : print d t <+: print d u) :
    t.filled <+: u.filled := by
  obtain ⟨rest, hrest⟩ := h
  have hpass : t.filled.map Event.ofRecord ++ PassState.run d (.lineStart false) rest
      = u.filled.map Event.ofRecord := by
    rw [← run_print hd, hrest, ← onePass, onePass_print hd]
  have hcells := congrArg (List.map Event.cells) hpass
  rw [List.map_append, map_cells_ofRecord, map_cells_ofRecord] at hcells
  obtain ⟨v, hv, -⟩ := Table.exists_append_eq_of_bytes hcells
  exact ⟨v, hv.symm⟩

/-- **A printed table continues another one exactly if its records do.** -/
theorem print_isPrefix_print_iff (t u : Table) :
    print d t <+: print d u ↔ t.filled <+: u.filled := by
  constructor
  · exact filled_isPrefix_of_print_isPrefix hd
  · rintro ⟨v, hv⟩
    refine ⟨print d v, ?_⟩
    rw [← print_filled d t, ← print_filled d u, ← hv, print_append]

/-- **Tables are printed alike exactly if their records are alike, one by one**, whatever character
the first cell begins with. -/
theorem print_eq_print_iff (t u : Table) :
    print d t = print d u ↔ List.Forall₂ Record.Alike t u := by
  rw [← Table.filled_eq_filled_iff]
  constructor
  · intro h
    have hfront := (print_isPrefix_print_iff hd t u).1 (h ▸ List.prefix_rfl)
    have hback := (print_isPrefix_print_iff hd u t).1 (h ▸ List.prefix_rfl)
    exact hfront.eq_of_length_le hback.length_le
  · intro h
    rw [← print_filled d t, h, print_filled]

end

/-- A table that is not read back as it was is still told apart from what is read. -/
theorem print_eq_print_iff_mark :
    ProperDelimiter comma ∧
      print comma [["\uFEFF", "a\n"], []] = print comma [["\uFEFF", "a\n"], [""]] ∧
      print comma [["\uFEFF", "a\n"], []] ≠ print comma [["", "a\n"], []] ∧
      parse comma (print comma [["\uFEFF", "a\n"], []]) = .ok [["", "a\n"], [""]] := by
  have halike : List.Forall₂ Record.Alike [["\uFEFF", "a\n"], []] [["\uFEFF", "a\n"], [""]] :=
    .cons (by decide) (.cons (by decide) .nil)
  have hother : ¬ List.Forall₂ Record.Alike [["\uFEFF", "a\n"], []] [["", "a\n"], []] := by
    rintro (_ | ⟨hfirst, -⟩)
    revert hfirst
    decide
  exact ⟨properDelimiter_comma, (print_eq_print_iff properDelimiter_comma _ _).2 halike,
    mt (print_eq_print_iff properDelimiter_comma _ _).1 hother, by decide +kernel⟩

end Delimited

end Tabular

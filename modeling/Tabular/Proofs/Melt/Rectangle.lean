/-
**A melted table is rectangular and is read back as it was.**

The rows of a wide table may have any lengths.  Its long form has one width only: the kept cells,
the name of the melted column and its cell make two cells more than there are kept columns, in the
header as in every record.  So no record is without cells, whatever the rows and the labels are, and
a file that holds a long table is read back as that table: no row is lost, none is added, and the
header is the one row that the summary of a melt does not count.  Only a mark in front of the header
is lost, as in any table.

Main results:

* `Tabular.Melt.LongTable.length_of_mem_toTable` — all records have one length;
* `Tabular.parse_output_melt` — **the output of a melt is a rectangle and is read back as the long
  table**.
-/

import Tabular.Job
import Tabular.Proofs.Column
import Tabular.Proofs.Delimited.RoundTrip
import Tabular.Proofs.Melt.Unmelt

set_option autoImplicit false

namespace Tabular

namespace Melt

theorem LongForm.length_of_mem_toTable {form : LongForm} (hp : form.partition.Proper)
    (hnames : form.names.length = form.partition.width) (rows : Table) :
    ∀ record ∈ (form.tableOf rows).toTable, record.length = form.partition.kept.length + 2 := by
  intro record hrecord
  rcases List.mem_cons.1 hrecord with rfl | hrecord
  · exact form.length_header
  · exact (isLong_recordsOfAll hp hnames rows).length_record record hrecord

/-- There are as many melted columns as different requests. -/
theorem Partition.length_melted_of_ofRequests {width : Nat} {requests : List Int} {p : Partition}
    (h : ofRequests width requests = .ok p) : p.melted.length = requests.toFinset.card := by
  obtain ⟨-, hdistinct, -⟩ := ofRequests_eq_ok_iff.1 h
  rw [← Column.length_distinct, hdistinct, List.length_map]

/-- **All records of a long table have one length**: the width of the wide table, less the melted
columns, and two more for the name and the cell of a melted column. -/
theorem LongTable.length_of_mem_toTable {table : Table} {requests : List Int} {labels : Labels}
    {long : LongTable} (h : LongTable.ofTable table requests labels = .ok long) :
    requests.toFinset.card ≤ (table.headD []).length ∧
      ∀ record ∈ long.toTable,
        record.length = (table.headD []).length - requests.toFinset.card + 2 := by
  obtain ⟨names, rows, form, rfl, hform, rfl⟩ := LongTable.ofTable_eq_ok h
  obtain ⟨hpartition, -, -⟩ := LongForm.ofRequests_eq_ok hform
  obtain ⟨hp, rfl, hwidth⟩ := LongForm.proper_of_ofRequests hform
  have hcolumns : form.partition.kept.length + requests.toFinset.card = form.names.length := by
    rw [← Partition.length_melted_of_ofRequests hpartition, hp.length_kept_add_length_melted,
      hwidth]
  rw [List.headD_cons, ← hcolumns]
  refine ⟨Nat.le_add_left .., ?_⟩
  intro record hrecord
  rw [LongForm.length_of_mem_toTable hp hwidth rows record hrecord, Nat.add_sub_cancel]

theorem LongTable.ne_nil_of_mem_toTable {table : Table} {requests : List Int} {labels : Labels}
    {long : LongTable} (h : LongTable.ofTable table requests labels = .ok long) :
    ∀ record ∈ long.toTable, record ≠ [] := by
  rintro record hrecord rfl
  have hlength := (LongTable.length_of_mem_toTable h).2 [] hrecord
  cases hlength

end Melt

open Delimited (ProperDelimiter HidesMark parse print)

/-- **The output of a melt is a rectangle and is read back as the long table**, unless a mark stands
in front of it: every record of the long table, the header included, has as many cells as the header
of the wide table, less the different requests and two more, and there is one record more than the
summary counts. -/
theorem parse_output_melt {d : UInt8} (hd : ProperDelimiter d) {table : Table}
    {requests : List Int} {labels : Melt.Labels} {long : Melt.LongTable}
    (h : Melt.LongTable.ofTable table requests labels = .ok long) :
    (requests.toFinset.card ≤ (table.headD []).length ∧
        ∀ record ∈ long.header :: long.records,
          record.length = (table.headD []).length - requests.toFinset.card + 2) ∧
      ∃ product, ((Task.melt requests labels).product d table).2 = .ok product ∧
        product.output = print d (long.header :: long.records) ∧
        (parse d product.output = .ok (long.header :: long.records) ↔
          ¬ HidesMark d (long.header :: long.records)) ∧
        (long.header :: long.records).length = product.summary.rows + 1 := by
  refine ⟨Melt.LongTable.length_of_mem_toTable h,
    ⟨print d long.toTable, none, ⟨long.records.length, []⟩⟩, ?_, rfl, ?_, rfl⟩
  · rw [Task.product, h]
  · have hne := Melt.LongTable.ne_nil_of_mem_toTable h
    exact Delimited.parse_print_eq_ok_iff_of_forall_ne_nil hd hne

/-- A header whose first cell begins with a mark and has to be quoted, a blank row, and rows that
are too short and too long, one of them with a line break in front. -/
def raggedRows : Table := [["\uFEFF\"", "q", "p"], [], ["\n"], ["", "1", "2", "3"]]

/-- The long form of these rows, with a label that is empty. -/
def raggedRowsLong : Melt.LongTable where
  header := ["\uFEFF\"", "q", "", "v"]
  records := [["", "", "p", ""], ["\n", "", "p", ""], ["", "1", "p", "2"]]

theorem parse_output_melt_raggedRows :
    ProperDelimiter Delimited.comma ∧
      Melt.LongTable.ofTable raggedRows [2, 2] ⟨"", "v"⟩ = .ok raggedRowsLong ∧
      ¬ HidesMark Delimited.comma (raggedRowsLong.header :: raggedRowsLong.records) ∧
      (∀ record ∈ raggedRowsLong.header :: raggedRowsLong.records, record.length = 4) ∧
      ∃ product,
        ((Task.melt [2, 2] ⟨"", "v"⟩).product Delimited.comma raggedRows).2 = .ok product ∧
        parse Delimited.comma product.output
          = .ok (raggedRowsLong.header :: raggedRowsLong.records) ∧
        product.summary.rows = 3 := by
  have hd := Delimited.properDelimiter_comma
  have h : Melt.LongTable.ofTable raggedRows [2, 2] ⟨"", "v"⟩ = .ok raggedRowsLong := by
    decide
  have hmark : ¬ HidesMark Delimited.comma (raggedRowsLong.header :: raggedRowsLong.records) := by
    decide
  obtain ⟨⟨-, hlength⟩, product, hproduct, -, hparse, hrows⟩ := parse_output_melt hd h
  exact ⟨hd, h, hmark, hlength, product, hproduct, hparse.2 hmark, (Nat.succ.inj hrows).symm⟩

end Tabular

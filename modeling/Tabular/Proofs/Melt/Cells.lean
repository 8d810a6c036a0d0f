/-
**The cells of a long table.**

Melting looks names and cells up by their numbers, and a lookup that misses would be told by an empty
cell.  None misses: each kept and each melted column is a column of the header, and every row is
brought to the width of the header first.  This is said with lookups that can fail, which find
everything and give the same long table.

The long table itself is described record by record.  All rows have the same number of records, so
that the place of a record tells its row and its column, and each of its cells is the cell of that row
or, where the row is too short, an empty one.  What a row has behind the last column of the header is
not looked at.

Main definitions:

* `Tabular.Melt.LongForm.header?`, `Tabular.Melt.LongForm.recordsOfAll?` — melting with lookups that
  can fail;
* `Tabular.Melt.HoldsCells` — **the records of a long table by their places**.

Main results:

* `Tabular.Melt.getElem?_flatMap_of_length` — where the members of joined lists of one length are;
* `Tabular.Melt.LongForm.recordsOfAll?_eq_some` — no lookup misses;
* `Tabular.Melt.LongForm.recordsOfAll_cells` — **melting looks up nothing that is not there, and its
  records hold the cells of the rows**.
-/

import Tabular.Proofs.Melt.Unmelt

set_option autoImplicit false

namespace Tabular

namespace Melt

/-! ### Lists -/

/-- In joined lists of one length, the place of a member tells its list and its place there. -/
theorem getElem?_flatMap_of_length {α β : Type} {f : α → List β} {size : Nat}
    (hf : ∀ a, (f a).length = size) (as : List α) (r : Nat) {j : Nat} (hj : j < size) :
    (as.flatMap f)[r * size + j]? = as[r]?.bind fun a => (f a)[j]? := by
  induction as generalizing r with
  | nil => rfl
  | cons a as ih =>
      rw [List.flatMap_cons]
      -- a place either lies in the first list or behind all of it, because `j` is less than its length
      cases r with
      | zero =>
          have hlt : 0 * size + j < (f a).length := by
            rw [hf]
            omega
          rw [List.getElem?_append_left hlt, Nat.zero_mul, Nat.zero_add]
          rfl
      | succ r =>
          have hplace : (r + 1) * size + j = (f a).length + (r * size + j) := by
            rw [hf, Nat.succ_mul]
            omega
          rw [hplace, List.getElem?_append_right (Nat.le_add_right ..), Nat.add_sub_cancel_left, ih]
          rfl

/-- Lookups that all find something. -/
theorem mapM_eq_some_map {α β : Type} {f : α → Option β} {g : α → β} {as : List α}
    (h : ∀ a ∈ as, f a = some (g a)) : as.mapM f = some (as.map g) := by
  induction as with
  | nil => rfl
  | cons a as ih =>
      obtain ⟨ha, has⟩ := List.forall_mem_cons.1 h
      rw [List.mapM_cons, ha, ih has]
      rfl

/-! ### Fitted rows -/

theorem getD_fit {width i : Nat} (h : i < width) (row : Record) :
    (fit width row).getD i "" = row.getD i "" := by
  rw [List.getD_eq_getElem?_getD, getElem?_fit row h, Option.getD_some]

theorem fit_take (width : Nat) (row : Record) : fit width (row.take width) = fit width row := by
  rw [fit, fit, List.take_take, Nat.min_self, List.length_take]
  congr 2
  omega

/-- **The records of a long table by their places**, when the columns of the wide table have the
names `names` and its rows are `rows`. -/
structure HoldsCells (names : Record) (p : Partition) (rows records : Table) : Prop where
  /-- Each row has as many records as columns are melted. -/
  length_eq : records.length = rows.length * p.melted.length
  length_record : ∀ record ∈ records, record.length = p.kept.length + 2
  /-- The kept cells are in the order of the table. -/
  ascending_kept : p.kept.Pairwise (· < ·)
  /-- The record with number `j` of the row with number `r`: the kept cells, the name of the melted
  column and the cell there. -/
  record_eq : ∀ (r j i : Nat) (row : Record), rows[r]? = some row → p.melted[j]? = some i →
    ∃ name, names[i]? = some name ∧
      records[r * p.melted.length + j]?
        = some (p.kept.map (fun k => row.getD k "") ++ [name, row.getD i ""])

namespace LongForm

/-! ### Lookups that can fail -/

/-- The cells of a row in the kept columns, if the row has these columns. -/
def keptCells? (form : LongForm) (row : Record) : Option Record :=
  form.partition.kept.mapM fun i => row[i]?

/-- The names of the columns of the long table, if all kept columns have names. -/
def header? (form : LongForm) : Option Record := do
  return (← form.keptCells? form.names) ++ [form.labels.key, form.labels.value]

/-- The records for a row, if all names and all cells of the fitted row are found. -/
def recordsOf? (form : LongForm) (row : Record) : Option Table := do
  let cells := fit form.partition.width row
  let kept ← form.keptCells? cells
  form.partition.melted.mapM fun i => do
    return kept ++ [← form.names[i]?, ← cells[i]?]

/-- The records for all rows, if all names and all cells of the fitted rows are found. -/
def recordsOfAll? (form : LongForm) (rows : Table) : Option Table :=
  (rows.mapM form.recordsOf?).map List.flatten

section

variable {form : LongForm} (hp : form.partition.Proper)

include hp

theorem keptCells?_eq_some {row : Record} (hrow : row.length = form.partition.width) :
    form.keptCells? row = some (form.keptCells row) := by
  refine mapM_eq_some_map fun i hi => ?_
  have hlt : i < row.length := hrow ▸ (hp.mem_kept_iff.1 hi).1
  rw [List.getElem?_eq_getElem hlt, List.getD_eq_getElem]

theorem header?_eq_some (hnames : form.names.length = form.partition.width) :
    form.header? = some form.header := by
  rw [header?, keptCells?_eq_some hp hnames]
  rfl

theorem recordsOf?_eq_some (hnames : form.names.length = form.partition.width) (row : Record) :
    form.recordsOf? row = some (form.recordsOf row) := by
  rw [recordsOf?, keptCells?_eq_some hp (length_fit ..)]
  refine mapM_eq_some_map fun i hi => ?_
  have hname : i < form.names.length := hnames ▸ hp.lt_width i hi
  have hcell : i < (fit form.partition.width row).length := by
    rw [length_fit]
    exact hp.lt_width i hi
  rw [List.getElem?_eq_getElem hname, List.getElem?_eq_getElem hcell,
    List.getD_eq_getElem _ _ hname, List.getD_eq_getElem _ _ hcell]
  rfl

/-- **No lookup misses**, whatever the lengths of the rows are. -/
theorem recordsOfAll?_eq_some (hnames : form.names.length = form.partition.width) (rows : Table) :
    form.recordsOfAll? rows = some (form.recordsOfAll rows) := by
  have hrows : rows.mapM form.recordsOf? = some (rows.map form.recordsOf) :=
    mapM_eq_some_map fun row _ => recordsOf?_eq_some hp hnames row
  rw [recordsOfAll?, hrows, Option.map_some, ← List.flatMap_def]
  rfl

/-! ### Records by their places -/

theorem keptCells_fit (row : Record) :
    form.keptCells (fit form.partition.width row) = form.keptCells row :=
  List.map_congr_left fun _ hi => getD_fit (hp.mem_kept_iff.1 hi).1 row

theorem getElem?_recordsOfAll {rows : Table} {row : Record} {r j i : Nat}
    (hrow : rows[r]? = some row) (hi : form.partition.melted[j]? = some i) :
    (form.recordsOfAll rows)[r * form.partition.melted.length + j]?
      = some (form.keptCells row ++ [form.names.getD i "", row.getD i ""]) := by
  obtain ⟨hj, -⟩ := List.getElem?_eq_some_iff.1 hi
  have hlt : i < form.partition.width := hp.lt_width i (List.mem_of_getElem? hi)
  rw [recordsOfAll, getElem?_flatMap_of_length form.length_recordsOf rows r hj, hrow,
    Option.bind_some, recordsOf, List.getElem?_map, hi, Option.map_some, keptCells_fit hp,
    getD_fit hlt]

theorem holdsCells_recordsOfAll (hnames : form.names.length = form.partition.width)
    (rows : Table) : HoldsCells form.names form.partition rows (form.recordsOfAll rows) := by
  refine ⟨form.length_recordsOfAll rows, (isLong_recordsOfAll hp hnames rows).length_record,
    hp.ascending_kept, ?_⟩
  intro r j i row hrow hi
  have hlt : i < form.names.length := hnames ▸ hp.lt_width i (List.mem_of_getElem? hi)
  refine ⟨form.names[i], List.getElem?_eq_getElem hlt, ?_⟩
  rw [getElem?_recordsOfAll hp hrow hi, List.getD_eq_getElem _ _ hlt]
  rfl

end

/-- What a row has behind the last column of the header is not looked at. -/
theorem recordsOfAll_map_take (form : LongForm) (rows : Table) :
    form.recordsOfAll (rows.map (List.take form.partition.width)) = form.recordsOfAll rows := by
  rw [recordsOfAll, List.flatMap_map]
  refine List.flatMap_congr fun row _ => ?_
  rw [recordsOf, recordsOf, fit_take]

/-- **Melting looks up nothing that is not there, and its records hold the cells of the rows**: every
kept and every melted column has a name and a cell in each fitted row, the lookups find the names and
the cells at the places that are described, and rows that agree up to the width of the header have
the same long form. -/
theorem recordsOfAll_cells {names : Record} {requests : List Int} {labels : Labels}
    {form : LongForm} (h : ofRequests names requests labels = .ok form) (rows : Table) :
    (∀ i ∈ form.partition.kept ++ form.partition.melted,
        i < names.length ∧ ∀ row, i < (fit form.partition.width row).length) ∧
      form.header? = some form.header ∧
      form.recordsOfAll? rows = some (form.recordsOfAll rows) ∧
      form.header.length = form.partition.kept.length + 2 ∧
      HoldsCells names form.partition rows (form.recordsOfAll rows) ∧
      ∀ others : Table, others.map (List.take names.length) = rows.map (List.take names.length) →
        form.recordsOfAll others = form.recordsOfAll rows := by
  obtain ⟨hp, rfl, hnames⟩ := proper_of_ofRequests h
  refine ⟨?_, header?_eq_some hp hnames, recordsOfAll?_eq_some hp hnames rows,
    form.length_header, holdsCells_recordsOfAll hp hnames rows, ?_⟩
  · intro i hi
    have hlt : i < form.partition.width :=
      List.mem_range.1 (hp.kept_append_melted_perm.mem_iff.1 hi)
    refine ⟨hnames ▸ hlt, fun row => ?_⟩
    rwa [length_fit]
  · intro others heq
    rw [hnames] at heq
    rw [← form.recordsOfAll_map_take others, heq, form.recordsOfAll_map_take]

/-- The second record of a row that is too short, behind a blank row; and a row that is too long,
which may be cut. -/
theorem recordsOfAll_cells_equalNames :
    ofRequests ["a", "a", "b"] [2, 0, 2] Labels.standard = .ok equalNames ∧
      equalNames.recordsOfAll? [[], ["1"], ["x", "y", "z", "w"]]
        = some [["", "b", ""], ["", "a", ""], ["", "b", ""], ["", "a", "1"], ["y", "b", "z"],
          ["y", "a", "x"]] ∧
      HoldsCells ["a", "a", "b"] equalNames.partition [[], ["1"], ["x", "y", "z", "w"]]
        (equalNames.recordsOfAll [[], ["1"], ["x", "y", "z", "w"]]) ∧
      (equalNames.recordsOfAll [[], ["1"], ["x", "y", "z", "w"]])[1 * 2 + 1]?
        = some ["", "a", "1"] ∧
      equalNames.recordsOfAll [[], ["1"], ["x", "y", "z"]]
        = equalNames.recordsOfAll [[], ["1"], ["x", "y", "z", "w"]] := by
  have h : ofRequests ["a", "a", "b"] [2, 0, 2] Labels.standard = .ok equalNames := by decide
  obtain ⟨-, -, hfound, -, hcells, hcut⟩ :=
    recordsOfAll_cells h [[], ["1"], ["x", "y", "z", "w"]]
  obtain ⟨name, hname, hrecord⟩ := hcells.record_eq 1 1 0 ["1"] rfl rfl
  cases hname
  exact ⟨h, hfound.trans (by decide), hcells, hrecord, hcut _ (by decide)⟩

end LongForm

end Melt

end Tabular

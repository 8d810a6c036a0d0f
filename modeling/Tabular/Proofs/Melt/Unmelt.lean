/-
**From long tables back to wide ones.**

Each row of a wide table becomes a group of records, one for each melted column.  The group still
holds the whole row, once it is brought to the width of the table: the kept cells stand in front of
every record, and every melted cell stands at the end of its own record.  So a wide table can be
rebuilt from its long form, group by group.

A list of records is the long form of some table exactly if it has the shape that melting gives it,
and melting the rebuilt table gives it back.  No name and no cell is needed to find the groups, so
that equal names, equal rows and blank rows do no harm.

Main definitions:

* `Tabular.Melt.groups` — consecutive groups of one size;
* `Tabular.Melt.Partition.unmelt` — **the wide rows that a list of records stands for**;
* `Tabular.Melt.IsLong` — the shape that melting gives to a list of records.

Main results:

* `Tabular.Melt.LongForm.rowOf_recordsOf`, `Tabular.Melt.LongForm.recordsOf_rowOf` — one row and its
  group;
* `Tabular.Melt.LongForm.isLong_recordsOfAll` — melting gives this shape;
* `Tabular.Melt.LongForm.unmelt_inverse` — **melting is a bijection** from tables of one width to
  lists of records of this shape.
-/

import Mathlib.Data.List.GetD
import Mathlib.Data.List.Nodup
import Tabular.Proofs.Melt.Partition

set_option autoImplicit false

namespace Tabular

namespace Melt

/-! ### Groups -/

/-- The first `n` groups of `size` consecutive members of a list. -/
def groups {α : Type} (size : Nat) : Nat → List α → List (List α)
  | 0, _ => []
  | n + 1, xs => xs.take size :: groups size n (xs.drop size)

section Groups

variable {α β : Type} {size : Nat}

/-- Lists of one size are found again after they were joined. -/
theorem groups_flatMap {f : α → List β} (hf : ∀ a, (f a).length = size) (as : List α) :
    groups size as.length (as.flatMap f) = as.map f := by
  induction as with
  | nil => rfl
  | cons a as ih =>
      rw [List.flatMap_cons, List.length_cons, groups, List.take_left' (hf a),
        List.drop_left' (hf a), ih, List.map_cons]

theorem flatMap_groups {n : Nat} {xs : List α} (hn : xs.length = n * size) {f : List α → List α}
    (hf : ∀ group ∈ groups size n xs, f group = group) : (groups size n xs).flatMap f = xs := by
  induction n generalizing xs with
  | zero => exact (List.length_eq_zero_iff.1 (by omega)).symm
  | succ n ih =>
      rw [groups] at hf ⊢
      rw [Nat.succ_mul] at hn
      have hrest : (groups size n (xs.drop size)).flatMap f = xs.drop size := by
        refine ih (by simp; omega) ?_
        intro group hgroup
        exact hf group (List.mem_cons_of_mem _ hgroup)
      rw [List.flatMap_cons, hf _ (List.mem_cons_self ..), hrest, List.take_append_drop]

theorem length_of_mem_groups {n : Nat} {xs : List α} (hn : xs.length = n * size)
    {group : List α} (h : group ∈ groups size n xs) : group.length = size := by
  induction n generalizing xs with
  | zero => cases h
  | succ n ih =>
      rw [Nat.succ_mul] at hn
      rcases List.mem_cons.1 h with rfl | h
      · simp only [List.length_take]
        omega
      · exact ih (by simp; omega) h

theorem mem_of_mem_groups {n : Nat} {xs : List α} {group : List α}
    (h : group ∈ groups size n xs) : ∀ x ∈ group, x ∈ xs := by
  induction n generalizing xs with
  | zero => cases h
  | succ n ih =>
      intro x hx
      rcases List.mem_cons.1 h with rfl | h
      · exact List.mem_of_mem_take hx
      · exact List.mem_of_mem_drop (ih h x hx)

end Groups

/-! ### Wide rows from long records -/

namespace Partition

/-- The cell in column `i` of the row that a group of records stands for: the cell of a melted
column ends its own record, and those of the kept columns begin the first one. -/
def cellOf (p : Partition) (group : Table) (i : Nat) : String :=
  match p.melted.idxOf? i with
  | some j => (group.getD j []).getLastD ""
  | none => (group.headD []).getD (p.kept.idxOf i) ""

/-- The row that a group of records stands for. -/
def rowOf (p : Partition) (group : Table) : Record := (List.range p.width).map (p.cellOf group)

/-- The groups of records that stand for one row each. -/
def groupsOf (p : Partition) (records : Table) : List Table :=
  groups p.melted.length (records.length / p.melted.length) records

/-- **The wide rows that a list of records stands for.** -/
def unmelt (p : Partition) (records : Table) : Table := (p.groupsOf records).map p.rowOf

variable {p : Partition}

@[simp] theorem length_rowOf (p : Partition) (group : Table) :
    (p.rowOf group).length = p.width := by simp [rowOf]

theorem getD_rowOf {i : Nat} (hi : i < p.width) (group : Table) :
    (p.rowOf group).getD i "" = p.cellOf group i := by
  simp [rowOf, hi]

theorem cellOf_melted (hp : p.Proper) (group : Table) {j : Nat} (hj : j < p.melted.length) :
    p.cellOf group p.melted[j] = (group.getD j []).getLastD "" := by
  have hidx : p.melted.idxOf? p.melted[j] = some j := by
    rw [List.idxOf?_eq_some_iff]
    refine ⟨hj, rfl, ?_⟩
    intro i hi heq
    have hij := (List.Nodup.getElem_inj_iff hp.nodup_melted).1 heq
    omega
  rw [cellOf, hidx]

theorem cellOf_kept (hp : p.Proper) (group : Table) {k : Nat} (hk : k < p.kept.length) :
    p.cellOf group p.kept[k] = (group.headD []).getD k "" := by
  have hnot : p.kept[k] ∉ p.melted := (hp.mem_kept_iff.1 (List.getElem_mem hk)).2
  have hidx : p.melted.idxOf? p.kept[k] = none := List.idxOf?_eq_none_iff.2 hnot
  rw [cellOf, hidx]
  exact congrArg (fun k => (group.headD []).getD k "") (hp.nodup_kept.idxOf_getElem k hk)

end Partition

/-! ### The shape of a long table -/

/-- **The shape that melting gives to a list of records** when the columns of the wide table have
the names `names`. -/
structure IsLong (names : Record) (p : Partition) (records : Table) : Prop where
  dvd_length : p.melted.length ∣ records.length
  length_record : ∀ record ∈ records, record.length = p.kept.length + 2
  /-- The records of a group begin alike. -/
  take_eq : ∀ group ∈ p.groupsOf records, ∀ record ∈ group, ∀ other ∈ group,
    record.take p.kept.length = other.take p.kept.length
  /-- The last cell but one of each record is the name of its column. -/
  names_eq : ∀ group ∈ p.groupsOf records,
    group.map (fun record => record.dropLast.getLast?) = p.melted.map (names[·]?)

theorem eq_take_append_of_length {n : Nat} {record : Record} (h : record.length = n + 2) :
    record = record.take n ++ [record.dropLast.getLastD "", record.getLastD ""] := by
  rcases List.eq_nil_or_concat record with rfl | ⟨front, last, rfl⟩
  · simp at h
  rcases List.eq_nil_or_concat front with rfl | ⟨front, next, rfl⟩
  · simp at h
  have hn : front.length = n := by simpa using h
  simp [hn.symm]

theorem fit_of_length_eq {width : Nat} {row : Record} (h : row.length = width) :
    fit width row = row := by
  rw [fit, List.take_of_length_le (Nat.le_of_eq h), h]
  simp

/-! ### One row -/

namespace LongForm

variable {form : LongForm}

theorem length_keptCells (form : LongForm) (row : Record) :
    (form.keptCells row).length = form.partition.kept.length := by simp [keptCells]

theorem length_header (form : LongForm) :
    form.header.length = form.partition.kept.length + 2 := by
  rw [header, List.length_append, length_keptCells]
  rfl

theorem getD_recordsOf (row : Record) {j : Nat} (hj : j < form.partition.melted.length) :
    (form.recordsOf row).getD j [] = form.keptCells (fit form.partition.width row) ++
      [form.names.getD form.partition.melted[j] "",
        (fit form.partition.width row).getD form.partition.melted[j] ""] := by
  simp [recordsOf, hj]

/-- **The group of a row holds the row.** -/
theorem rowOf_recordsOf (hp : form.partition.Proper) (row : Record) :
    form.partition.rowOf (form.recordsOf row) = fit form.partition.width row := by
  refine List.ext_getElem (by simp) ?_
  intro i hi hi'
  have hwidth : i < form.partition.width := by simpa using hi
  rw [← List.getD_eq_getElem _ "" hi, ← List.getD_eq_getElem _ "" hi', Partition.getD_rowOf hwidth]
  by_cases hmelted : i ∈ form.partition.melted
  · obtain ⟨j, hj, rfl⟩ := List.getElem_of_mem hmelted
    rw [Partition.cellOf_melted hp, getD_recordsOf row hj]
    simp
  · obtain ⟨k, hk, rfl⟩ := List.getElem_of_mem (hp.mem_kept_iff.2 ⟨hwidth, hmelted⟩)
    have hhead : (form.recordsOf row).headD [] = (form.recordsOf row).getD 0 [] := by
      rw [List.headD_eq_head?_getD, List.head?_eq_getElem?, List.getD_eq_getElem?_getD]
    rw [Partition.cellOf_kept hp, hhead, getD_recordsOf row hp.length_melted_pos,
      List.getD_append _ _ _ _ (by simpa [length_keptCells] using hk)]
    simp [keptCells, hk]

/-- The kept cells of a rebuilt row are those of the first record of its group. -/
theorem keptCells_rowOf (hp : form.partition.Proper) {group : Table}
    (hlength : form.partition.kept.length ≤ (group.headD []).length) :
    form.keptCells (form.partition.rowOf group)
      = (group.headD []).take form.partition.kept.length := by
  have hlengths : (form.keptCells (form.partition.rowOf group)).length
      = ((group.headD []).take form.partition.kept.length).length := by
    rw [length_keptCells, List.length_take, Nat.min_eq_left hlength]
  refine List.ext_getElem hlengths ?_
  intro k hk hk'
  have hkept : k < form.partition.kept.length := by simpa [length_keptCells] using hk
  have hwidth := (hp.mem_kept_iff.1 (List.getElem_mem hkept)).1
  simp only [keptCells, List.getElem_map, List.getElem_take]
  rw [Partition.getD_rowOf hwidth, Partition.cellOf_kept hp, List.getD_eq_getElem]

/-- The row that a group of the right shape stands for has that group. -/
theorem recordsOf_rowOf (hp : form.partition.Proper) {group : Table}
    (hlength : group.length = form.partition.melted.length)
    (hrecord : ∀ record ∈ group, record.length = form.partition.kept.length + 2)
    (htake : ∀ record ∈ group, ∀ other ∈ group,
      record.take form.partition.kept.length = other.take form.partition.kept.length)
    (hnamed : group.map (fun record => record.dropLast.getLast?)
      = form.partition.melted.map (form.names[·]?)) :
    form.recordsOf (form.partition.rowOf group) = group := by
  refine List.ext_getElem (by simp [hlength]) ?_
  intro j hj hj'
  have hmelted : j < form.partition.melted.length := hlength ▸ hj'
  have hwidth : form.partition.melted[j] < form.partition.width :=
    hp.lt_width _ (List.getElem_mem hmelted)
  have hmem : group[j] ∈ group := List.getElem_mem hj'
  have hfirst : group.headD [] ∈ group := by
    cases group with
    | nil => cases hmem
    | cons record _ => exact List.mem_cons_self ..
  -- the cells in front come from the first record, which begins like this one
  have hkept : form.keptCells (form.partition.rowOf group)
      = group[j].take form.partition.kept.length := by
    rw [htake _ hmem _ hfirst]
    refine keptCells_rowOf hp ?_
    have hlen := hrecord _ hfirst
    omega
  -- the name is that of the column
  have hname : form.names.getD form.partition.melted[j] "" = group[j].dropLast.getLastD "" := by
    have hjth := congrArg (·[j]?) hnamed
    simp only [List.getElem?_map, List.getElem?_eq_getElem hj', List.getElem?_eq_getElem hmelted,
      Option.map_some, Option.some.injEq] at hjth
    rw [List.getLastD_eq_getLast?, hjth, List.getD_eq_getElem?_getD]
  -- and the last cell is looked up in this record
  have hcell : (form.partition.rowOf group).getD form.partition.melted[j] ""
      = group[j].getLastD "" := by
    rw [Partition.getD_rowOf hwidth, Partition.cellOf_melted hp _ hmelted,
      List.getD_eq_getElem _ _ hj']
  have hfit := fit_of_length_eq (Partition.length_rowOf form.partition group)
  calc (form.recordsOf (form.partition.rowOf group))[j]
      = (form.recordsOf (form.partition.rowOf group)).getD j [] :=
          (List.getD_eq_getElem _ _ hj).symm
    _ = group[j].take form.partition.kept.length
          ++ [group[j].dropLast.getLastD "", group[j].getLastD ""] := by
        rw [getD_recordsOf _ hmelted, hfit, hkept, hname, hcell]
    _ = group[j] := (eq_take_append_of_length (hrecord _ hmem)).symm

/-! ### Whole tables -/

theorem length_recordsOfAll (form : LongForm) (rows : Table) :
    (form.recordsOfAll rows).length = rows.length * form.partition.melted.length := by
  induction rows with
  | nil => simp [recordsOfAll]
  | cons row rows ih =>
      rw [recordsOfAll, List.flatMap_cons, List.length_append, ← recordsOfAll, ih, length_recordsOf,
        List.length_cons, Nat.succ_mul]
      omega

/-- The groups of a melted table are those of its rows. -/
theorem groupsOf_recordsOfAll (hp : form.partition.Proper) (rows : Table) :
    form.partition.groupsOf (form.recordsOfAll rows) = rows.map form.recordsOf := by
  rw [Partition.groupsOf, length_recordsOfAll, Nat.mul_div_cancel _ hp.length_melted_pos]
  exact groups_flatMap form.length_recordsOf rows

theorem isLong_recordsOfAll (hp : form.partition.Proper)
    (hnames : form.names.length = form.partition.width) (rows : Table) :
    IsLong form.names form.partition (form.recordsOfAll rows) := by
  have hgroup : ∀ group ∈ form.partition.groupsOf (form.recordsOfAll rows),
      ∃ row, form.recordsOf row = group := by
    intro group hgroup
    rw [groupsOf_recordsOfAll hp] at hgroup
    obtain ⟨row, -, hrow⟩ := List.mem_map.1 hgroup
    exact ⟨row, hrow⟩
  have htake : ∀ row, ∀ record ∈ form.recordsOf row,
      record.take form.partition.kept.length
        = form.keptCells (fit form.partition.width row) := by
    intro row record hrecord
    obtain ⟨i, -, rfl⟩ := List.mem_map.1 hrecord
    exact List.take_left' (length_keptCells ..)
  refine ⟨?_, ?_, ?_, ?_⟩
  · rw [length_recordsOfAll]
    exact Nat.dvd_mul_left ..
  · intro record hrecord
    obtain ⟨row, -, hrecord⟩ := List.mem_flatMap.1 hrecord
    obtain ⟨i, -, rfl⟩ := List.mem_map.1 hrecord
    simp [length_keptCells]
  · intro group hmem record hrecord other hother
    obtain ⟨row, rfl⟩ := hgroup group hmem
    rw [htake row record hrecord, htake row other hother]
  · intro group hmem
    obtain ⟨row, rfl⟩ := hgroup group hmem
    rw [recordsOf, List.map_map]
    refine List.map_congr_left ?_
    intro i hi
    have hlt : i < form.names.length := hnames ▸ hp.lt_width i hi
    simp [List.dropLast_append_of_ne_nil, hlt]

theorem unmelt_recordsOfAll (hp : form.partition.Proper) (rows : Table) :
    form.partition.unmelt (form.recordsOfAll rows) = rows.map (fit form.partition.width) := by
  rw [Partition.unmelt, groupsOf_recordsOfAll hp, List.map_map]
  refine List.map_congr_left ?_
  intro row _
  exact rowOf_recordsOf hp row

theorem recordsOfAll_unmelt (hp : form.partition.Proper) {records : Table}
    (h : IsLong form.names form.partition records) :
    form.recordsOfAll (form.partition.unmelt records) = records := by
  obtain ⟨hdvd, hrecord, htake, hnamed⟩ := h
  have hlength := (Nat.div_mul_cancel hdvd).symm
  rw [recordsOfAll, Partition.unmelt, List.flatMap_map]
  refine flatMap_groups hlength ?_
  intro group hgroup
  refine recordsOf_rowOf hp (length_of_mem_groups hlength hgroup) ?_ (htake group hgroup)
    (hnamed group hgroup)
  intro record hmem
  exact hrecord record (mem_of_mem_groups hgroup record hmem)

/-- **Melting is a bijection** from the tables of the header's width to the lists of records of the
right shape: a melted table is turned back into its rows, all brought to that width, and each such
list is the long form of the table that it is turned into. -/
theorem unmelt_inverse {names : Record} {requests : List Int} {labels : Labels} {form : LongForm}
    (h : LongForm.ofRequests names requests labels = .ok form) :
    (∀ rows, IsLong names form.partition (form.recordsOfAll rows) ∧
        form.partition.unmelt (form.recordsOfAll rows) = rows.map (fit names.length)) ∧
      ∀ records, IsLong names form.partition records →
        (∀ row ∈ form.partition.unmelt records, row.length = names.length) ∧
          form.recordsOfAll (form.partition.unmelt records) = records := by
  obtain ⟨hpartition, rfl, -⟩ := ofRequests_eq_ok h
  have hp := Partition.proper_of_ofRequests hpartition
  obtain ⟨-, -, -, -, hwidth⟩ := Partition.ofRequests_eq_ok_iff.1 hpartition
  rw [← hwidth]
  constructor
  · intro rows
    exact ⟨isLong_recordsOfAll hp hwidth.symm rows, unmelt_recordsOfAll hp rows⟩
  · intro records hlong
    refine ⟨?_, recordsOfAll_unmelt hp hlong⟩
    intro row hrow
    obtain ⟨group, -, rfl⟩ := List.mem_map.1 hrow
    exact Partition.length_rowOf ..

/-- Two columns of one name, of which the second is kept. -/
def equalNames : LongForm := ⟨⟨[1], [2, 0], 3⟩, ["a", "a", "b"], Labels.standard⟩

/-- Short, blank and long rows; and two groups that begin alike. -/
theorem unmelt_inverse_equalNames :
    LongForm.ofRequests ["a", "a", "b"] [2, 0, 2] Labels.standard = .ok equalNames ∧
      equalNames.partition.unmelt
          (equalNames.recordsOfAll [["1"], [], ["x", "y", "z", "w"]])
        = [["1", "", ""], ["", "", ""], ["x", "y", "z"]] ∧
      IsLong ["a", "a", "b"] equalNames.partition
        [["p", "b", "q"], ["p", "a", ""], ["p", "b", ""], ["p", "a", "r"]] ∧
      equalNames.recordsOfAll (equalNames.partition.unmelt
          [["p", "b", "q"], ["p", "a", ""], ["p", "b", ""], ["p", "a", "r"]])
        = [["p", "b", "q"], ["p", "a", ""], ["p", "b", ""], ["p", "a", "r"]] := by
  have h : LongForm.ofRequests ["a", "a", "b"] [2, 0, 2] Labels.standard = .ok equalNames := by
    decide
  have hlong : IsLong ["a", "a", "b"] equalNames.partition
      [["p", "b", "q"], ["p", "a", ""], ["p", "b", ""], ["p", "a", "r"]] :=
    ⟨by decide, by decide, by decide, by decide⟩
  obtain ⟨hmelt, hunmelt⟩ := unmelt_inverse h
  exact ⟨h, (hmelt _).2, hlong, (hunmelt _ hlong).2⟩

end LongForm

end Melt

end Tabular

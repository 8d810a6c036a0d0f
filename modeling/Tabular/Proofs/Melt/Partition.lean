/-
**What a partition of columns is.**

Requested columns that all exist divide the columns of a table: each one is melted or kept, and none
is both.  The melted columns are the requests without their repetitions, and the kept ones are the
others in ascending order.

Main results:

* `Tabular.Melt.Partition.ofRequests_eq_ok_iff` — when requests make a partition, and which one;
* `Tabular.Melt.Partition.proper_of_ofRequests` — **every column is kept or melted, once**.
-/

import Mathlib.Data.List.Basic
import Tabular.Melt.LongForm

set_option autoImplicit false

namespace Tabular

namespace Melt

/-! ### Columns that exist -/

theorem locate_eq_ok_iff {width i : Nat} {index : Int} :
    locate width index = .ok i ↔ index = i ∧ i < width := by
  rw [← Column.position?_eq_some_iff, locate]
  cases Column.position? index width <;> simp

/-- All requests are found exactly if they are numbers of columns. -/
theorem mapM_locate_eq_ok_iff (width : Nat) (requests : List Int) (melted : List Nat) :
    requests.mapM (locate width) = .ok melted ↔
      requests = melted.map Int.ofNat ∧ ∀ i ∈ melted, i < width := by
  induction requests generalizing melted with
  | nil => cases melted <;> simp [pure, Except.pure]
  | cons index requests ih =>
      rw [List.mapM_cons]
      cases melted with
      | nil =>
          cases locate width index <;> cases requests.mapM (locate width) <;>
            simp [bind, Except.bind, pure, Except.pure]
      | cons i melted =>
          have hfirst : locate width index = .ok i ↔ index = Int.ofNat i ∧ i < width :=
            locate_eq_ok_iff
          have hrest := ih melted
          rw [List.map_cons, List.cons.injEq, List.forall_mem_cons, and_and_and_comm, ← hfirst,
            ← hrest]
          cases locate width index <;> cases requests.mapM (locate width) <;>
            simp [bind, Except.bind, pure, Except.pure]

namespace Partition

/-- A partition that keeps exactly the columns that it does not melt. -/
structure Proper (p : Partition) : Prop where
  melted_ne_nil : p.melted ≠ []
  nodup_melted : p.melted.Nodup
  lt_width : ∀ i ∈ p.melted, i < p.width
  kept_eq : p.kept = (List.range p.width).filter (· ∉ p.melted)

theorem ofRequests_eq_ok_iff {width : Nat} {requests : List Int} {p : Partition} :
    ofRequests width requests = .ok p ↔
      requests ≠ [] ∧ Column.distinct requests = p.melted.map Int.ofNat ∧
        (∀ i ∈ p.melted, i < width) ∧ p.kept = (List.range width).filter (· ∉ p.melted) ∧
        p.width = width := by
  have hmap := mapM_locate_eq_ok_iff width (Column.distinct requests) p.melted
  rw [ofRequests, ← and_assoc (c := p.kept = _ ∧ _), ← hmap]
  by_cases hnil : requests = []
  · simp [hnil]
  · obtain ⟨kept, melted, width'⟩ := p
    rw [if_neg (by simpa using hnil)]
    cases (Column.distinct requests).mapM (locate width) with
    | error refusal => simp [bind, Except.bind]
    | ok found =>
        simp only [bind, Except.bind, pure, Except.pure, Except.ok.injEq, Partition.mk.injEq]
        constructor
        · rintro ⟨rfl, rfl, rfl⟩
          exact ⟨hnil, rfl, rfl, rfl⟩
        · rintro ⟨-, rfl, hkept, hwidth⟩
          exact ⟨hkept.symm, rfl, hwidth.symm⟩

/-- **Every column is kept or melted, once.** -/
theorem proper_of_ofRequests {width : Nat} {requests : List Int} {p : Partition}
    (h : ofRequests width requests = .ok p) : p.Proper := by
  obtain ⟨hne, hdistinct, hlt, hkept, rfl⟩ := ofRequests_eq_ok_iff.1 h
  refine ⟨?_, ?_, hlt, hkept⟩
  · intro hnil
    obtain ⟨i, is, rfl⟩ := List.exists_cons_of_ne_nil hne
    rw [hnil, Column.distinct_cons] at hdistinct
    cases hdistinct
  · have hnodup := Column.nodup_distinct requests
    rw [hdistinct] at hnodup
    exact List.Pairwise.of_map Int.ofNat (fun _ _ hne heq => hne (congrArg Int.ofNat heq)) hnodup

variable {p : Partition} {i : Nat}

theorem Proper.mem_kept_iff (h : p.Proper) : i ∈ p.kept ↔ i < p.width ∧ i ∉ p.melted := by
  rw [h.kept_eq]
  simp

theorem Proper.nodup_kept (h : p.Proper) : p.kept.Nodup := by
  rw [h.kept_eq]
  exact List.Pairwise.filter _ List.nodup_range

/-- The kept columns are in the order of the table. -/
theorem Proper.ascending_kept (h : p.Proper) : p.kept.Pairwise (· < ·) := by
  rw [h.kept_eq]
  exact List.pairwise_lt_range.filter _

/-- The kept and the melted columns are all columns, each once. -/
theorem Proper.kept_append_melted_perm (h : p.Proper) :
    (p.kept ++ p.melted).Perm (List.range p.width) := by
  have hmelted : ((List.range p.width).filter (¬ · ∉ p.melted)).Perm p.melted := by
    refine (List.perm_ext_iff_of_nodup (List.nodup_range.filter _) h.nodup_melted).2 ?_
    intro i
    simpa using h.lt_width i
  have hsplit := List.filter_append_perm (· ∉ p.melted) (List.range p.width)
  rw [h.kept_eq]
  refine (hmelted.symm.append_left _).trans ?_
  simpa using hsplit

theorem Proper.length_kept_add_length_melted (h : p.Proper) :
    p.kept.length + p.melted.length = p.width := by
  rw [← List.length_append, h.kept_append_melted_perm.length_eq, List.length_range]

theorem Proper.length_melted_pos (h : p.Proper) : 0 < p.melted.length :=
  List.length_pos_iff.2 h.melted_ne_nil

end Partition

theorem LongForm.ofRequests_eq_ok {names : Record} {requests : List Int} {labels : Labels}
    {form : LongForm} (h : LongForm.ofRequests names requests labels = .ok form) :
    Partition.ofRequests names.length requests = .ok form.partition ∧ form.names = names ∧
      form.labels = labels := by
  rw [LongForm.ofRequests] at h
  cases hp : Partition.ofRequests names.length requests with
  | error refusal => simp [hp, bind, Except.bind] at h
  | ok p =>
      simp only [hp, bind, Except.bind, pure, Except.pure, Except.ok.injEq] at h
      subst h
      exact ⟨rfl, rfl, rfl⟩

/-- The columns of a long form are divided as far as its header reaches. -/
theorem LongForm.proper_of_ofRequests {names : Record} {requests : List Int} {labels : Labels}
    {form : LongForm} (h : LongForm.ofRequests names requests labels = .ok form) :
    form.partition.Proper ∧ form.names = names ∧ names.length = form.partition.width := by
  obtain ⟨hpartition, hnames, -⟩ := LongForm.ofRequests_eq_ok h
  obtain ⟨-, -, -, -, hwidth⟩ := Partition.ofRequests_eq_ok_iff.1 hpartition
  exact ⟨Partition.proper_of_ofRequests hpartition, hnames, hwidth.symm⟩

theorem LongTable.ofTable_eq_ok {table : Table} {requests : List Int} {labels : Labels}
    {long : LongTable} (h : LongTable.ofTable table requests labels = .ok long) :
    ∃ names rows form, table = names :: rows ∧
      LongForm.ofRequests names requests labels = .ok form ∧ long = form.tableOf rows := by
  cases table with
  | nil => cases h
  | cons names rows =>
      rw [LongTable.ofTable] at h
      cases hform : LongForm.ofRequests names requests labels with
      | error refusal => simp [hform, bind, Except.bind] at h
      | ok form =>
          simp only [hform, bind, Except.bind, pure, Except.pure, Except.ok.injEq] at h
          exact ⟨names, rows, form, rfl, hform, h.symm⟩

end Melt

end Tabular

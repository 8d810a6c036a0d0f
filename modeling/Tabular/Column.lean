/-
**Requested columns.**

A user names columns by their position, counted from 0.  A request is any integer: it may lie
outside the table, also below 0, and the same column may be requested more than once.  Only its
first request counts, and the order of first requests is the order of the output.

Main definitions:

* `Tabular.Column.distinct` — **a list of requests without repetitions**;
* `Tabular.Column.position?` — where a row of a given width has the column.

Main results:

* `Tabular.Column.mem_distinct`, `Tabular.Column.nodup_distinct` — the same columns are
  requested, each once;
* `Tabular.Column.distinct_induction` — induction along the distinct members of a list;
* `Tabular.Column.position?_eq_some_iff`, `Tabular.Column.position?_eq_none_iff` — when
  a row has a column.
-/

set_option autoImplicit false

namespace Tabular

namespace Column

/-- **The requested columns, each where it is requested first.** -/
def distinct (indices : List Int) : List Int := indices.eraseDups

/-- The position of a column in a row of `width` cells, if the row has it. -/
def position? (index : Int) (width : Nat) : Option Nat :=
  if 0 ≤ index ∧ index < width then some index.toNat else none

/-! ### The same columns, each once -/

@[simp] theorem distinct_nil : distinct [] = [] := rfl

theorem distinct_cons (i : Int) (is : List Int) :
    distinct (i :: is) = i :: distinct (is.filter fun j => !j == i) := List.eraseDups_cons

@[simp] theorem mem_distinct {i : Int} {is : List Int} :
    i ∈ distinct is ↔ i ∈ is := List.mem_eraseDups

/-- Induction along the distinct members of a list: behind the first one, only the members that
differ from it count. -/
@[elab_as_elim] theorem distinct_induction {α : Type} [BEq α] {motive : List α → Prop}
    (nil : motive [])
    (cons : ∀ a as, motive (as.filter fun b => !b == a) → motive (a :: as)) (as : List α) :
    motive as := by
  induction hn : as.length using Nat.strongRecOn generalizing as with
  | _ n ih =>
      cases as with
      | nil => exact nil
      | cons a as =>
          have hlt : (as.filter fun b => !b == a).length < n := by
            have := List.length_filter_le (fun b => !b == a) as
            simp only [List.length_cons] at hn
            omega
          exact cons a as (ih _ hlt _ rfl)

theorem nodup_distinct (is : List Int) : (distinct is).Nodup := by
  induction is using distinct_induction with
  | nil => simp
  | cons i is ih =>
      rw [distinct_cons, List.nodup_cons]
      exact ⟨by simp, ih⟩

/-! ### When a row has a column -/

theorem position?_eq_some_iff {index : Int} {width i : Nat} :
    position? index width = some i ↔ index = i ∧ i < width := by
  unfold position?
  split
  · simp only [Option.some.injEq]; omega
  · simp only [reduceCtorEq, false_iff]; omega

theorem position?_eq_none_iff {index : Int} {width : Nat} :
    position? index width = none ↔ index < 0 ∨ (width : Int) ≤ index := by
  unfold position?
  split
  · simp only [reduceCtorEq, false_iff]; omega
  · simp only [true_iff]; omega

end Column

end Tabular

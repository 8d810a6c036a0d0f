/-
**The order of requested columns.**

Requests are taken in the order in which they are first made.  This is said here without the list
of distinct requests: a column comes before another one if its first request does.  The list of
distinct requests is also what is collected from the requests one after the other, if the columns
that were seen are remembered.

Main definitions:

* `Tabular.Column.FirstRequests` — the requested columns in the order of their first requests;
* `Tabular.Column.Collected`, `Tabular.Column.Collected.add` — what is collected from requests, and
  one request more.

Main results:

* `Tabular.Column.firstRequests_distinct` — **the distinct requests are in this order**;
* `Tabular.Column.FirstRequests.eq_distinct` — and no other list is;
* `Tabular.Column.distinct_of_nodup` — requests without repetitions stay as they are;
* `Tabular.Column.distinct_map`, `Tabular.Column.distinct_map_eq_iff` — columns may be renamed before
  or after repetitions are left out, exactly if no two of them get one name;
* `Tabular.Column.distinct_append` — what later requests add;
* `Tabular.Column.foldl_add` — what has been collected after any requests;
* `Tabular.Column.distinct_stable` — **the laws of distinct requests**.
-/

import Mathlib.Data.Finset.Card
import Mathlib.Data.List.Sort
import Tabular.Column

set_option autoImplicit false

namespace Tabular

namespace Column

/-- **The requested columns in the order of their first requests.** -/
structure FirstRequests (requests columns : List Int) : Prop where
  mem_iff : ∀ i, i ∈ columns ↔ i ∈ requests
  ordered : columns.Pairwise fun i j => requests.idxOf i < requests.idxOf j

/-- Which of two members comes first does not depend on the others. -/
theorem idxOf_lt_of_idxOf_filter_lt {p : Int → Bool} {i j : Int} (hi : p i = true) (hj : p j = true)
    {is : List Int} (h : (is.filter p).idxOf i < (is.filter p).idxOf j) :
    is.idxOf i < is.idxOf j := by
  induction is with
  | nil => exact h
  | cons k is ih =>
      by_cases hki : k = i
      · subst hki
        have hkj : (k == j) = false := by
          rw [beq_eq_false_iff_ne]
          rintro rfl
          exact Nat.lt_irrefl _ h
        simp [List.idxOf_cons, hkj]
      by_cases hkj : k = j
      · subst hkj
        simp [List.filter_cons_of_pos hj] at h
      have hi' : (k == i) = false := beq_eq_false_iff_ne.2 hki
      have hj' : (k == j) = false := beq_eq_false_iff_ne.2 hkj
      have hrest : (is.filter p).idxOf i < (is.filter p).idxOf j := by
        by_cases hk : p k = true
        · simpa [List.filter_cons_of_pos hk, List.idxOf_cons, hi', hj'] using h
        · rwa [List.filter_cons_of_neg hk] at h
      simpa [List.idxOf_cons, hi', hj'] using ih hrest

/-- **The distinct requests are in the order of first requests.** -/
theorem firstRequests_distinct (requests : List Int) :
    FirstRequests requests (distinct requests) := by
  refine ⟨fun i => mem_distinct, ?_⟩
  -- every other column is requested after the first one and is looked for among the later requests
  induction requests using distinct_induction with
  | nil => exact List.Pairwise.nil
  | cons i is ih =>
      have hother : ∀ j ∈ distinct (is.filter fun j => !j == i), (!j == i) = true ∧
          (i == j) = false := by
        intro j hj
        rw [mem_distinct, List.mem_filter] at hj
        refine ⟨hj.2, beq_eq_false_iff_ne.2 ?_⟩
        rintro rfl
        simp at hj
      rw [distinct_cons, List.pairwise_cons]
      constructor
      · intro j hj
        simp [List.idxOf_cons, (hother j hj).2]
      · refine ih.imp_of_mem ?_
        intro j k hj hk hjk
        have hlt := idxOf_lt_of_idxOf_filter_lt (hother j hj).1 (hother k hk).1 hjk
        simpa [List.idxOf_cons, (hother j hj).2, (hother k hk).2] using hlt

/-- Only the distinct requests are in this order. -/
theorem FirstRequests.eq_distinct {requests columns : List Int}
    (h : FirstRequests requests columns) : columns = distinct requests := by
  let earlier (i j : Int) : Prop := requests.idxOf i < requests.idxOf j
  have _ : Std.Irrefl earlier := ⟨fun i => Nat.lt_irrefl (requests.idxOf i)⟩
  have _ : Std.Antisymm earlier := ⟨fun _ _ hij hji => absurd hij (Nat.lt_asymm hji)⟩
  have hdistinct := firstRequests_distinct requests
  refine List.Pairwise.eq_of_mem_iff (r := earlier) h.ordered hdistinct.ordered fun i => ?_
  rw [h.mem_iff, hdistinct.mem_iff]

/-- Whether a list is cleared of repetitions before or after its members are renamed makes no
difference, as long as no two members get one name. -/
theorem distinct_map {α : Type} [BEq α] [LawfulBEq α] {name : α → Int} {as : List α}
    (hname : ∀ a ∈ as, ∀ b ∈ as, name a = name b → a = b) :
    distinct (as.map name) = as.eraseDups.map name := by
  induction as using distinct_induction with
  | nil => rfl
  | cons a as ih =>
      have hrest : (as.map name).filter (fun j => !j == name a)
          = (as.filter fun b => !b == a).map name := by
        rw [List.filter_map]
        congr 1
        refine List.filter_congr ?_
        intro b hb
        have hiff : name b = name a ↔ b = a :=
          ⟨hname b (List.mem_cons_of_mem _ hb) a (List.mem_cons_self ..), congrArg name⟩
        rw [Function.comp_apply, Bool.eq_iff_iff, Bool.not_eq_true', Bool.not_eq_true',
          beq_eq_false_iff_ne, beq_eq_false_iff_ne, Ne, Ne, hiff]
      have hinjective : ∀ b ∈ as.filter (fun b => !b == a), ∀ c ∈ as.filter (fun b => !b == a),
          name b = name c → b = c := by
        intro b hb c hc
        exact hname b (List.mem_cons_of_mem _ (List.mem_filter.1 hb).1) c
          (List.mem_cons_of_mem _ (List.mem_filter.1 hc).1)
      rw [List.map_cons, distinct_cons, List.eraseDups_cons, List.map_cons, hrest, ih hinjective]

/-- Requests without repetitions are distinct as they stand. -/
theorem distinct_of_nodup {is : List Int} (h : is.Nodup) : distinct is = is := by
  induction is with
  | nil => rfl
  | cons i is ih =>
      obtain ⟨hi, his⟩ := List.nodup_cons.1 h
      have hother : is.filter (fun j => !j == i) = is := by
        refine List.filter_eq_self.2 fun j hj => ?_
        rw [Bool.not_eq_true', beq_eq_false_iff_ne]
        rintro rfl
        exact hi hj
      rw [distinct_cons, hother, ih his]

/-- There are as many distinct requests as requested columns. -/
theorem length_distinct (requests : List Int) :
    (distinct requests).length = requests.toFinset.card := by
  rw [← List.toFinset_card_of_nodup (nodup_distinct requests)]
  congr 1
  ext i
  simp

/-! ### Requests in parts -/

/-- Requests may be left out before or after repetitions are. -/
theorem distinct_filter (p : Int → Bool) (is : List Int) :
    distinct (is.filter p) = (distinct is).filter p := by
  induction is using distinct_induction with
  | nil => rfl
  | cons i is ih =>
      rw [distinct_cons]
      by_cases hi : p i = true
      · rw [List.filter_cons_of_pos hi, List.filter_cons_of_pos hi, distinct_cons, List.filter_comm,
          ih]
      · have hothers : is.filter p = (is.filter fun j => !j == i).filter p := by
          rw [List.filter_filter]
          refine List.filter_congr fun j _ => ?_
          by_cases hj : j = i <;> simp [hj, hi]
        rw [List.filter_cons_of_neg hi, List.filter_cons_of_neg hi, hothers, ih]

/-- Of later requests only those count that have not been made before. -/
theorem distinct_append (is js : List Int) :
    distinct (is ++ js) = distinct is ++ (distinct js).filter fun j => j ∉ is := by
  have happend : distinct (is ++ js) = distinct is ++ distinct (js.removeAll is) :=
    List.eraseDups_append
  rw [happend, List.removeAll, distinct_filter]
  congr 1
  refine List.filter_congr fun j _ => ?_
  simp

theorem distinct_sublist (is : List Int) : (distinct is).Sublist is := by
  induction is using distinct_induction with
  | nil => exact List.Sublist.refl []
  | cons i is ih =>
      rw [distinct_cons]
      exact (ih.trans List.filter_sublist).cons_cons i

/-- Renaming the requested columns renames the distinct ones exactly if no two get one name. -/
theorem distinct_map_eq_iff (name : Int → Int) (is : List Int) :
    distinct (is.map name) = (distinct is).map name ↔ Set.InjOn name {i | i ∈ is} := by
  constructor
  · intro h i hi j hj hij
    have hnodup : ((distinct is).map name).Nodup := h ▸ nodup_distinct (is.map name)
    exact List.inj_on_of_nodup_map hnodup (mem_distinct.2 hi) (mem_distinct.2 hj) hij
  · intro h
    exact distinct_map fun i hi j hj => h hi hj

/-! ### One request after the other -/

/-- What is known on the way through the requests: the columns seen so far, and the output. -/
structure Collected where
  seen : Finset Int
  columns : List Int

/-- A column that has not been seen is marked as seen and put behind the others. -/
def Collected.add (collected : Collected) (i : Int) : Collected :=
  if i ∈ collected.seen then collected
  else ⟨insert i collected.seen, collected.columns ++ [i]⟩

/-- After some requests all of them have been seen, and the new ones among them are in the output in
the order of their first requests. -/
theorem foldl_add (is : List Int) (collected : Collected) :
    is.foldl Collected.add collected
      = ⟨collected.seen ∪ is.toFinset,
        collected.columns ++ (distinct is).filter fun i => i ∉ collected.seen⟩ := by
  induction is generalizing collected with
  | nil => simp
  | cons i is ih =>
      have hnew : (distinct is).filter (fun j => j ∉ insert i collected.seen)
          = (distinct is).filter fun j => decide (j ∉ collected.seen) && !j == i := by
        refine List.filter_congr fun j _ => ?_
        by_cases hj : j = i <;> simp [hj]
      rw [List.foldl_cons, ih, Collected.add, distinct_cons, distinct_filter, List.toFinset_cons,
        Finset.union_insert, ← Finset.insert_union]
      by_cases hi : i ∈ collected.seen
      · rw [Finset.insert_eq_of_mem hi] at hnew ⊢
        rw [if_pos hi, List.filter_cons_of_neg (by simp [hi]), List.filter_filter, hnew]
      · rw [if_neg hi, List.filter_cons_of_pos (by simp [hi]), List.filter_filter, hnew,
          List.append_assoc]
        rfl

/-- **The laws of distinct requests.**  They are collected one after the other; they are the
requested columns, each once, as they stand among the requests and in the order of first requests;
requests behind others add the columns that are new; clearing requests twice is clearing them once;
and columns may be renamed before or after, exactly if no two requested ones get one name. -/
theorem distinct_stable (is js : List Int) :
    (is.foldl Collected.add ⟨∅, []⟩).columns = distinct is ∧
      ((distinct is).Nodup ∧ (distinct is).Sublist is ∧ FirstRequests is (distinct is)) ∧
      distinct (is ++ js) = distinct is ++ ((distinct js).filter fun j => j ∉ is) ∧
      distinct (distinct is) = distinct is ∧
      ∀ name : Int → Int,
        distinct (is.map name) = (distinct is).map name ↔ Set.InjOn name {i | i ∈ is} := by
  refine ⟨?_, ⟨nodup_distinct is, distinct_sublist is, firstRequests_distinct is⟩,
    distinct_append is js, distinct_of_nodup (nodup_distinct is), fun name =>
    distinct_map_eq_iff name is⟩
  simp [foldl_add]

end Column

end Tabular

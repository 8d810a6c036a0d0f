/-
**What comes of requested columns.**

A melt is refused if no column is requested, and if a requested column does not exist.  In the second
case the first such request is told, in the order in which the user made them.  Repetitions are left
out before the requests are looked at, but this hides nothing: what is left out stands behind an equal
request.  All other requests divide the columns of the table, so that every column is melted or kept,
and none twice.

Main definitions:

* `Tabular.Column.Outside`, `Tabular.Column.FirstOutside` — a request for a column that does not
  exist, and the first of them;
* `Tabular.Melt.Partition.Divides` — **what it means that requests divide the columns**.

Main results:

* `Tabular.Column.find?_distinct` — the first request with a property, with and without repetitions;
* `Tabular.Melt.Partition.ofRequests_eq_error_iff` — when requests are refused, and with which
  words;
* `Tabular.Melt.Partition.ofRequests_outcome` — **requests are refused or divide the columns**.
-/

import Tabular.Proofs.Column
import Tabular.Proofs.Melt.Partition

set_option autoImplicit false

namespace Tabular

namespace Column

/-! ### The first request that has no column -/

/-- A request for a column that a table of `width` columns does not have. -/
def Outside (width : Nat) (index : Int) : Prop := index < 0 ∨ (width : Int) ≤ index

instance decidableOutside (width : Nat) (index : Int) : Decidable (Outside width index) :=
  inferInstanceAs (Decidable (_ ∨ _))

/-- **The first request for a column that a table of `width` columns does not have.** -/
def FirstOutside (width : Nat) (requests : List Int) (index : Int) : Prop :=
  Outside width index ∧
    ∃ earlier later, requests = earlier ++ index :: later ∧ ∀ i ∈ earlier, ¬ Outside width i

theorem find?_outside_eq_some_iff {width : Nat} {requests : List Int} {index : Int} :
    requests.find? (Outside width ·) = some index ↔ FirstOutside width requests index := by
  simp [List.find?_eq_some_iff_append, FirstOutside]

theorem exists_firstOutside_iff {width : Nat} {requests : List Int} :
    (∃ index, FirstOutside width requests index) ↔ ∃ index ∈ requests, Outside width index := by
  simp only [← find?_outside_eq_some_iff, ← Option.isSome_iff_exists, List.find?_isSome,
    decide_eq_true_eq]

/-- The first request with a property is the first of the distinct ones that has it. -/
theorem find?_distinct (p : Int → Bool) (requests : List Int) :
    (distinct requests).find? p = requests.find? p := by
  induction requests using distinct_induction with
  | nil => rfl
  | cons i is ih =>
      rw [distinct_cons, List.find?_cons, List.find?_cons, ih, List.find?_filter]
      cases hi : p i with
      | true => rfl
      | false =>
          -- the requests that are left out are equal to one without the property
          have hp : (fun j => decide ((!j == i) = true ∧ p j = true)) = p := by
            funext j
            by_cases hj : j = i
            · simp [hj, hi]
            · simp [hj]
          rw [hp]

end Column

namespace Melt

/-! ### Refusals -/

theorem locate_eq_error_iff {width : Nat} {index : Int} {refusal : Refusal} :
    locate width index = .error refusal ↔
      Column.Outside width index ∧ refusal = .noSuchColumn index width := by
  rw [Column.Outside, ← Column.position?_eq_none_iff, locate]
  cases Column.position? index width with
  | none => simp [eq_comm]
  | some i => simp

/-- The request at which the search for the columns ends is the first one without a column. -/
theorem mapM_locate_eq_error_iff {width : Nat} {requests : List Int} {refusal : Refusal} :
    requests.mapM (locate width) = .error refusal ↔
      ∃ index, requests.find? (Column.Outside width ·) = some index ∧
        refusal = .noSuchColumn index width := by
  induction requests with
  | nil => simp [pure, Except.pure]
  | cons index requests ih =>
      rw [List.mapM_cons, List.find?_cons]
      by_cases hindex : Column.Outside width index
      · have hlocate : locate width index = .error (.noSuchColumn index width) :=
          locate_eq_error_iff.2 ⟨hindex, rfl⟩
        simp [hlocate, hindex, bind, Except.bind, eq_comm]
      · have hlocate : ∃ i, locate width index = .ok i := by
          cases h : locate width index with
          | ok i => exact ⟨i, rfl⟩
          | error other => exact absurd (locate_eq_error_iff.1 h).1 hindex
        obtain ⟨i, hi⟩ := hlocate
        simp only [hi, hindex, bind, Except.bind, decide_false, ← ih]
        cases requests.mapM (locate width) <;> simp [pure, Except.pure]

namespace Partition

variable {width : Nat} {requests : List Int}

theorem ofRequests_of_ne_nil (h : requests ≠ []) :
    ofRequests width requests = ((Column.distinct requests).mapM (locate width)).map fun melted =>
      ⟨(List.range width).filter (· ∉ melted), melted, width⟩ := by
  rw [ofRequests, if_neg (by simpa using h)]
  cases (Column.distinct requests).mapM (locate width) <;> rfl

/-- Requests are refused for two reasons only. -/
theorem ofRequests_eq_error_iff {refusal : Refusal} :
    ofRequests width requests = .error refusal ↔
      (requests = [] ∧ refusal = .nothingRequested) ∨
        ∃ index, Column.FirstOutside width requests index ∧
          refusal = .noSuchColumn index width := by
  by_cases hnil : requests = []
  · subst hnil
    simp [ofRequests, Column.FirstOutside, eq_comm]
  · have hmap : (Column.distinct requests).mapM (locate width) = .error refusal ↔
        ∃ index, Column.FirstOutside width requests index ∧
          refusal = .noSuchColumn index width := by
      rw [mapM_locate_eq_error_iff, Column.find?_distinct]
      simp only [Column.find?_outside_eq_some_iff]
    rw [ofRequests_of_ne_nil hnil, ← hmap]
    cases (Column.distinct requests).mapM (locate width) <;> simp [Except.map, hnil]

/-! ### Divisions -/

/-- **The columns of a table with `width` columns, divided by requests.** -/
structure Divides (p : Partition) (width : Nat) (requests : List Int) : Prop where
  width_eq : p.width = width
  /-- The melted columns are the requested ones in the order of their first requests. -/
  firstRequests : Column.FirstRequests requests (p.melted.map Int.ofNat)
  nodup_melted : p.melted.Nodup
  /-- The kept columns are in the order of the table. -/
  ascending_kept : p.kept.Pairwise (· < ·)
  /-- Every column is kept or melted, once. -/
  perm : (p.kept ++ p.melted).Perm (List.range width)

theorem divides_of_ofRequests {p : Partition} (h : ofRequests width requests = .ok p) :
    p.Divides width requests := by
  have hp := proper_of_ofRequests h
  obtain ⟨-, hdistinct, -, -, hwidth⟩ := ofRequests_eq_ok_iff.1 h
  refine ⟨hwidth, ?_, hp.nodup_melted, hp.ascending_kept, ?_⟩
  · rw [← hdistinct]
    exact Column.firstRequests_distinct requests
  · rw [← hwidth]
    exact hp.kept_append_melted_perm

/-- **Requests are refused or divide the columns.**  They are refused if there are none, and if one
of them is for a column that does not exist; then the first such request is told. -/
theorem ofRequests_outcome (width : Nat) (requests : List Int) :
    (ofRequests width requests = .error .nothingRequested ↔ requests = []) ∧
      ((∃ index w, ofRequests width requests = .error (.noSuchColumn index w)) ↔
        ∃ index ∈ requests, Column.Outside width index) ∧
      (∀ index w, ofRequests width requests = .error (.noSuchColumn index w) →
        w = width ∧ Column.FirstOutside width requests index) ∧
      (requests ≠ [] → (∀ index ∈ requests, ¬ Column.Outside width index) →
        ∃ p, ofRequests width requests = .ok p ∧ p.Divides width requests ∧
          p.kept.length + p.melted.length = width) := by
  refine ⟨?_, ?_, ?_, ?_⟩
  · rw [ofRequests_eq_error_iff]
    simp
  · rw [← Column.exists_firstOutside_iff]
    simp [ofRequests_eq_error_iff]
  · intro index w h
    obtain ⟨-, h⟩ | ⟨i, hfirst, h⟩ := ofRequests_eq_error_iff.1 h
    · cases h
    · cases h
      exact ⟨rfl, hfirst⟩
  · intro hne hinside
    cases h : ofRequests width requests with
    | error refusal =>
        obtain ⟨hnil, -⟩ | ⟨index, hfirst, -⟩ := ofRequests_eq_error_iff.1 h
        · exact absurd hnil hne
        · obtain ⟨i, hmem, houtside⟩ := Column.exists_firstOutside_iff.1 ⟨index, hfirst⟩
          exact absurd houtside (hinside i hmem)
    | ok p =>
        have hdivides := divides_of_ofRequests h
        have hlength := hdivides.perm.length_eq
        rw [List.length_append, List.length_range] at hlength
        exact ⟨p, rfl, hdivides, hlength⟩

/-- Requests of all kinds for a table of four columns.  The column that is told is requested twice,
before a column below 0. -/
theorem ofRequests_outcome_fourColumns :
    ofRequests 4 [] = .error .nothingRequested ∧
      ofRequests 4 [1, 5, -1, 5] = .error (.noSuchColumn 5 4) ∧
      Column.FirstOutside 4 [1, 5, -1, 5] 5 ∧
      [(3 : Int), 1, 3] ≠ [] ∧ (∀ index ∈ [(3 : Int), 1, 3], ¬ Column.Outside 4 index) ∧
      ∃ p, ofRequests 4 [3, 1, 3] = .ok p ∧ p.Divides 4 [3, 1, 3] ∧
        p.kept.length + p.melted.length = 4 := by
  obtain ⟨hempty, -, -, -⟩ := ofRequests_outcome 4 []
  obtain ⟨-, -, hfirst, -⟩ := ofRequests_outcome 4 [1, 5, -1, 5]
  obtain ⟨-, -, -, hdivided⟩ := ofRequests_outcome 4 [3, 1, 3]
  have hrefused : ofRequests 4 [1, 5, -1, 5] = .error (.noSuchColumn 5 4) := by decide
  have hinside : ∀ index ∈ [(3 : Int), 1, 3], ¬ Column.Outside 4 index := by decide
  exact ⟨hempty.2 rfl, hrefused, (hfirst 5 4 hrefused).2, by decide, hinside,
    hdivided (by decide) hinside⟩

end Partition

end Melt

end Tabular

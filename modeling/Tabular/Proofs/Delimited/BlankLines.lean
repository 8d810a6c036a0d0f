/-
**Counting blank lines by position.**

The blank lines at a place are counted on the text behind it, one terminator after the other.  Seen
from the whole text this is a loop over positions: it goes from a position to the one behind the
terminator that stands there, and ends where none stands.  No look ahead by one byte and no end of
the text can lead it astray, because every position that it reaches lies behind a terminator of the
text.

The number it comes to needs no loop.  The positions run through the line breaks that stand there
without a gap, and every terminator has exactly one last byte: a line feed, or a carriage return
that no line feed follows.

Main definitions:

* `Tabular.Delimited.terminatorEnd` — the position behind the terminator at a position;
* `Tabular.Delimited.nextLineOffset` — the position at which the next line begins;
* `Tabular.Delimited.lineBreaksAt`, `Tabular.Delimited.loneReturns` — the line breaks at a position,
  and those of them that are carriage returns without a line feed;
* `Tabular.Delimited.CountsFrom` — **a number of terminators, counted from a position on**.

Main results:

* `Tabular.Delimited.countTerminators_eq` — the terminators by their last bytes;
* `Tabular.Delimited.countsFrom_countTerminators` — what is counted behind a position;
* `Tabular.Delimited.countsFrom_nextLineOffset` — **the blank lines at every offset of a text**.
-/

import Mathlib.Dynamics.FixedPoints.Basic
import Mathlib.Order.Bounds.Basic
import Tabular.Proofs.Delimited.OnePass

set_option autoImplicit false

namespace Tabular

namespace Delimited

open Function (IsFixedPt)

/-! ### Positions -/

/-- The position behind the line terminator at a position, or the position itself if there is none.
A carriage return looks ahead for its line feed. -/
def terminatorEnd (text : Bytes) (i : Nat) : Nat :=
  if text[i]? = some lf then i + 1
  else if text[i]? = some cr then
    if text[i + 1]? = some lf then i + 2 else i + 1
  else i

/-- The position at which the line after an offset begins.  The byte before the offset tells how
much of a terminator is still to come. -/
def nextLineOffset (text : Bytes) (offset : Nat) : Nat :=
  if offset = 0 ∨ text[offset - 1]? = some lf then offset
  else if text[offset - 1]? = some cr then
    if text[offset]? = some lf then offset + 1 else offset
  else terminatorEnd text offset

/-- The longest run of line breaks that begins at a position. -/
def lineBreaksAt (text : Bytes) (i : Nat) : Bytes := (text.drop i).takeWhile isLineBreak

/-- The number of carriage returns that no line feed follows. -/
def loneReturns (bs : Bytes) : Nat :=
  (List.range bs.length).countP fun i => bs[i]? = some cr ∧ bs[i + 1]? ≠ some lf

/-- **A number of terminators, counted from a position on.** -/
structure CountsFrom (text : Bytes) (first count : Nat) : Prop where
  /-- The loop ends: `count` is the first number of steps after which a step stays in its place. -/
  ends : IsLeast {k | IsFixedPt (terminatorEnd text) ((terminatorEnd text)^[k] first)} count
  /-- Every step before goes forward and passes bytes of the text only. -/
  inside : ∀ k < count, (terminatorEnd text)^[k] first < (terminatorEnd text)^[k + 1] first ∧
    (terminatorEnd text)^[k + 1] first ≤ text.length
  /-- The loop ends behind the line breaks. -/
  stops : (terminatorEnd text)^[count] first = first + (lineBreaksAt text first).length
  /-- The count by the last bytes of the terminators. -/
  count_eq : count = (lineBreaksAt text first).count lf + loneReturns (lineBreaksAt text first)

/-! ### One step -/

theorem terminatorEnd_eq_of_none {text : Bytes} {i : Nat}
    (h : afterTerminator? (text.drop i) = none) : terminatorEnd text i = i := by
  have hhead := isLineBreak_of_afterTerminator?_none h
  rw [List.head?_drop] at hhead
  have hlf : text[i]? ≠ some lf := fun hlf => absurd (hhead lf hlf) (by decide)
  have hcr : text[i]? ≠ some cr := fun hcr => absurd (hhead cr hcr) (by decide)
  rw [terminatorEnd, if_neg hlf, if_neg hcr]

/-- A step passes the terminator that stands at the position, and nothing else. -/
theorem exists_terminatorEnd_eq_add {text rest : Bytes} {i : Nat}
    (h : afterTerminator? (text.drop i) = some rest) :
    ∃ terminator : Bytes, terminator ≠ [] ∧ (∀ b ∈ terminator, isLineBreak b = true) ∧
      text.drop i = terminator ++ rest ∧ terminatorEnd text i = i + terminator.length := by
  have hget (k : Nat) : text[i + k]? = (text.drop i)[k]? := List.getElem?_drop.symm
  have hfirst : text[i]? = (text.drop i)[0]? := hget 0
  have hsecond := hget 1
  rcases eq_of_afterTerminator?_some h with hbs | hbs | ⟨hbs, hrest⟩
  · have hlf : text[i]? = some lf := by rw [hfirst, hbs]; rfl
    exact ⟨[lf], by simp, by simp [isLineBreak], hbs, if_pos hlf⟩
  · have hcr : text[i]? = some cr := by rw [hfirst, hbs]; rfl
    have hlf : text[i + 1]? = some lf := by rw [hsecond, hbs]; rfl
    refine ⟨[cr, lf], by simp, by simp [isLineBreak], hbs, ?_⟩
    rw [terminatorEnd, if_neg (by simp [hcr]), if_pos hcr, if_pos hlf]
    rfl
  · have hcr : text[i]? = some cr := by rw [hfirst, hbs]; rfl
    have hnext : text[i + 1]? ≠ some lf := by
      rw [hsecond, hbs, List.getElem?_cons_succ, ← List.head?_eq_getElem?]
      exact hrest
    refine ⟨[cr], by simp, by simp [isLineBreak], hbs, ?_⟩
    rw [terminatorEnd, if_neg (by simp [hcr]), if_pos hcr, if_neg hnext]
    rfl

theorem terminatorEnd_of_some {text rest : Bytes} {i : Nat}
    (h : afterTerminator? (text.drop i) = some rest) :
    i < terminatorEnd text i ∧ terminatorEnd text i ≤ text.length ∧
      text.drop (terminatorEnd text i) = rest := by
  obtain ⟨terminator, hne, -, hdrop, hend⟩ := exists_terminatorEnd_eq_add h
  have hpos : 0 < terminator.length := List.length_pos_iff.2 hne
  have hlength := congrArg List.length hdrop
  rw [List.length_drop, List.length_append] at hlength
  refine ⟨by omega, by omega, ?_⟩
  rw [hend, ← List.drop_drop, hdrop, List.drop_left]

/-! ### The line breaks at a position -/

theorem takeWhile_isLineBreak_eq_nil {bs : Bytes} (h : afterTerminator? bs = none) :
    bs.takeWhile isLineBreak = [] := by
  have hhead := isLineBreak_of_afterTerminator?_none h
  cases bs with
  | nil => rfl
  | cons b bs => exact List.takeWhile_cons_of_neg (by simp [hhead b rfl])

/-- A step within the line breaks does not change where they end. -/
theorem add_length_lineBreaksAt {text rest : Bytes} {i : Nat}
    (h : afterTerminator? (text.drop i) = some rest) :
    terminatorEnd text i + (lineBreaksAt text (terminatorEnd text i)).length
      = i + (lineBreaksAt text i).length := by
  obtain ⟨terminator, -, hbreaks, hdrop, hend⟩ := exists_terminatorEnd_eq_add h
  obtain ⟨-, -, hrest⟩ := terminatorEnd_of_some h
  rw [lineBreaksAt, lineBreaksAt, hrest, hdrop, List.takeWhile_append_of_pos hbreaks,
    List.length_append, hend]
  omega

theorem loneReturns_cons (b : UInt8) (bs : Bytes) :
    loneReturns (b :: bs)
      = loneReturns bs + if b = cr ∧ bs.head? ≠ some lf then 1 else 0 := by
  rw [loneReturns, List.length_cons, List.range_succ_eq_map, List.countP_cons, List.countP_map,
    loneReturns]
  simp [Function.comp_def, List.head?_eq_getElem?]

/-- **Every terminator has one last byte**: a line feed, or a carriage return that no line feed
follows. -/
theorem countTerminators_eq (bs : Bytes) :
    countTerminators bs
      = (bs.takeWhile isLineBreak).count lf + loneReturns (bs.takeWhile isLineBreak) := by
  have hlf (bs : Bytes) : (lf :: bs).takeWhile isLineBreak = lf :: bs.takeWhile isLineBreak := rfl
  have hcr (bs : Bytes) : (cr :: bs).takeWhile isLineBreak = cr :: bs.takeWhile isLineBreak := rfl
  have hne : lf ≠ cr := cr_ne_lf.symm
  fun_induction countTerminators bs with
  | case1 bs h =>
      rw [takeWhile_isLineBreak_eq_nil h]
      rfl
  | case2 bs rest h ih =>
      rw [ih]
      rcases eq_of_afterTerminator?_some h with rfl | rfl | ⟨rfl, hrest⟩
      · rw [hlf, loneReturns_cons, List.count_cons_self, if_neg (by simp [hne])]
        omega
      · rw [hcr, hlf, loneReturns_cons, loneReturns_cons, List.count_cons_of_ne cr_ne_lf,
          List.count_cons_self, if_neg (by simp [hne]), if_neg (by simp)]
        omega
      · have hhead : (rest.takeWhile isLineBreak).head? ≠ some lf := by
          rw [List.head?_takeWhile]
          exact fun hfilter => hrest (Option.filter_eq_some_iff.1 hfilter).1
        rw [hcr, loneReturns_cons, List.count_cons_of_ne cr_ne_lf, if_pos ⟨rfl, hhead⟩]
        omega

/-! ### The loop -/

/-- The loop goes through the terminators behind a position, one by one. -/
theorem iterate_terminatorEnd (text : Bytes) (i : Nat) :
    IsLeast {k | IsFixedPt (terminatorEnd text) ((terminatorEnd text)^[k] i)}
        (countTerminators (text.drop i)) ∧
      (∀ k < countTerminators (text.drop i),
        (terminatorEnd text)^[k] i < (terminatorEnd text)^[k + 1] i ∧
          (terminatorEnd text)^[k + 1] i ≤ text.length) ∧
      (terminatorEnd text)^[countTerminators (text.drop i)] i
        = i + (lineBreaksAt text i).length := by
  induction hbs : text.drop i using countTerminators.induct generalizing i with
  | case1 bs h =>
      subst hbs
      have hbreaks : lineBreaksAt text i = [] := takeWhile_isLineBreak_eq_nil h
      rw [countTerminators_of_none h, hbreaks]
      exact ⟨⟨terminatorEnd_eq_of_none h, fun k _ => Nat.zero_le k⟩, by simp, rfl⟩
  | case2 bs rest h ih =>
      subst hbs
      obtain ⟨hlt, hle, hrest⟩ := terminatorEnd_of_some h
      obtain ⟨⟨hfixed, hleast⟩, hinside, hstops⟩ := ih (terminatorEnd text i) hrest
      rw [countTerminators_of_some h]
      refine ⟨⟨?_, ?_⟩, ?_, ?_⟩
      · exact hfixed
      · intro k hk
        cases k with
        | zero => exact absurd hk (Nat.ne_of_gt hlt)
        | succ k => exact Nat.succ_le_succ (hleast hk)
      · intro k hk
        cases k with
        | zero => exact ⟨hlt, hle⟩
        | succ k => exact hinside k (Nat.lt_of_succ_lt_succ hk)
      · exact hstops.trans (add_length_lineBreaksAt h)

/-- What is counted behind a position is counted from this position on. -/
theorem countsFrom_countTerminators (text : Bytes) (i : Nat) :
    CountsFrom text i (countTerminators (text.drop i)) := by
  obtain ⟨hends, hinside, hstops⟩ := iterate_terminatorEnd text i
  exact ⟨hends, hinside, hstops, countTerminators_eq _⟩

/-! ### Offsets -/

/-- Behind no terminator the step stays, and behind one it passes it. -/
theorem drop_terminatorEnd (text : Bytes) (i : Nat) :
    text.drop (terminatorEnd text i) = (afterTerminator? (text.drop i)).getD (text.drop i) := by
  cases h : afterTerminator? (text.drop i) with
  | none => rw [terminatorEnd_eq_of_none h, Option.getD_none]
  | some rest => rw [(terminatorEnd_of_some h).2.2, Option.getD_some]

theorem nextLine_ofOffset (text : Bytes) (offset : Nat) :
    (Place.ofOffset text offset).nextLine = text.drop (nextLineOffset text offset) := by
  by_cases hzero : offset = 0
  · subst hzero
    rfl
  have hhead : (text.drop offset).head? = text[offset]? := List.head?_drop
  rw [Place.ofOffset, if_neg hzero, nextLineOffset, Place.nextLine]
  cases hbefore : text[offset - 1]? with
  | none =>
      -- beyond the end of the text there is nothing to pass
      have hnil : text.drop offset = [] := by
        rw [List.getElem?_eq_none_iff] at hbefore
        exact List.drop_eq_nil_iff.2 (by omega)
      simp [hzero, drop_terminatorEnd, hnil, afterTerminator?]
  | some b =>
      by_cases hlf : b = lf
      · simp [hlf]
      by_cases hcr : b = cr
      · subst hcr
        cases hafter : text.drop offset with
        | nil => simp_all
        | cons c cs =>
            have hget : text[offset]? = some c := by rw [← hhead, hafter]; rfl
            have hdrop : text.drop (offset + 1) = cs := by rw [← List.drop_drop, hafter]; rfl
            by_cases hc : c = lf
            · simp [hzero, hget, hc, hdrop]
            · simp [hzero, hget, hc, hafter]
      · simp [hzero, hlf, hcr, drop_terminatorEnd]

theorem terminatorEnd_le (text : Bytes) (i : Nat) :
    terminatorEnd text i ≤ max i text.length := by
  cases h : afterTerminator? (text.drop i) with
  | none => rw [terminatorEnd_eq_of_none h]; exact Nat.le_max_left ..
  | some rest => exact Nat.le_trans (terminatorEnd_of_some h).2.1 (Nat.le_max_right ..)

/-- The next line begins in the text, unless the offset is beyond its end. -/
theorem nextLineOffset_le (text : Bytes) (offset : Nat) :
    nextLineOffset text offset ≤ max offset text.length := by
  rw [nextLineOffset]
  split
  · exact Nat.le_max_left ..
  · split
    · split
      · next hlf =>
          obtain ⟨hlt, -⟩ := List.getElem?_eq_some_iff.1 hlf
          exact Nat.le_trans hlt (Nat.le_max_right ..)
      · exact Nat.le_max_left ..
    · exact terminatorEnd_le text offset

/-- At the end of a text and beyond it there is no blank line. -/
theorem blankLines_ofOffset_of_le {text : Bytes} {offset : Nat} (h : text.length ≤ offset) :
    (Place.ofOffset text offset).blankLines = 0 :=
  Place.blankLines_of_after_eq_nil (List.drop_eq_nil_iff.2 h)

/-- **The blank lines at every offset of a text**, beyond its end included. -/
theorem countsFrom_nextLineOffset (text : Bytes) (offset : Nat) :
    CountsFrom text (nextLineOffset text offset) (Place.ofOffset text offset).blankLines ∧
      nextLineOffset text offset ≤ max offset text.length ∧
      ∀ beyond : Nat, (Place.ofOffset text (text.length + 1 + beyond)).blankLines = 0 := by
  refine ⟨?_, nextLineOffset_le text offset, fun beyond => blankLines_ofOffset_of_le (by omega)⟩
  rw [Place.blankLines, nextLine_ofOffset]
  exact countsFrom_countTerminators text _

/-- The same line breaks, counted from every offset. -/
example : (List.range 8).map
    (fun offset => (Place.ofOffset (Utf8.encode "a\r\r\n\nb") offset).blankLines)
      = [0, 2, 2, 1, 1, 0, 0, 0] := by decide +kernel

end Delimited

end Tabular

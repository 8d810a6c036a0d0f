/-
**The lines of a text, blank ones included.**

Reading a record skips the line breaks in front of it, so blank lines leave no trace in the
records.  They are found separately: at every place the reader reaches, the line terminators that
follow are counted.  A terminator is a carriage return, a line feed, or a carriage return with the
line feed after it.  The reader stops just behind the first byte of the terminator that ends a
record, so the byte before a place tells whether that terminator is complete: after a carriage
return a line feed still belongs to it and is not a blank line.

A byte order mark that is still in front of the text hides the blank lines behind it: they are
counted from the mark on, and no line terminator stands there.

Main definitions:

* `Tabular.Delimited.Place`, `Tabular.Delimited.Place.ofOffset` — a place in a text;
* `Tabular.Delimited.Place.blankLines` — the number of blank lines at a place;
* `Tabular.Delimited.Line` — a blank line or a record, with the place that was reached before it;
* `Tabular.Delimited.lines` — **the lines of a text**.

Main results:

* `Tabular.Delimited.collect_eq` — the lines found so far stay in front of those that follow;
* `Tabular.Delimited.collect_of_nextRecord?_none`, `Tabular.Delimited.collect_of_nextRecord?_some`
  — the lines at a place, one record at a time.
-/

import Tabular.Delimited.Mode

set_option autoImplicit false

namespace Tabular

namespace Delimited

/-! ### Line terminators -/

/-- The text after the line terminator at its beginning, if there is one. -/
def afterTerminator? : Bytes → Option Bytes
  | [] => none
  | b :: bs =>
      if b = lf then some bs
      else if b = cr then
        match bs with
        | [] => some []
        | c :: cs => if c = lf then some cs else some (c :: cs)
      else none

/-- A terminator is not empty. -/
theorem length_lt_of_afterTerminator? {bs rest : Bytes} (h : afterTerminator? bs = some rest) :
    rest.length < bs.length := by
  unfold afterTerminator? at h
  split at h
  · cases h
  · split at h
    · simp_all
    · split at h
      · split at h
        · simp_all
        · split at h
          · injection h with h
            subst h
            simp only [List.length_cons]
            omega
          · simp_all
      · cases h

/-- The number of line terminators at the beginning of a text. -/
def countTerminators (bs : Bytes) : Nat :=
  match _h : afterTerminator? bs with
  | none => 0
  | some rest => countTerminators rest + 1
termination_by bs.length
decreasing_by exact length_lt_of_afterTerminator? _h

theorem countTerminators_of_none {bs : Bytes} (h : afterTerminator? bs = none) :
    countTerminators bs = 0 := by
  rw [countTerminators]
  split
  · rfl
  · simp_all

theorem countTerminators_of_some {bs rest : Bytes} (h : afterTerminator? bs = some rest) :
    countTerminators bs = countTerminators rest + 1 := by
  rw [countTerminators]
  split
  · simp_all
  · simp_all

/-! ### Places -/

/-- A place in a text. -/
structure Place where
  /-- The byte before the place, if there is one. -/
  before : Option UInt8
  /-- The text after it. -/
  after : Bytes
  deriving DecidableEq, Repr

/-- The place behind the first `offset` bytes of a text. -/
def Place.ofOffset (text : Bytes) (offset : Nat) : Place :=
  ⟨if offset = 0 then none else text[offset - 1]?, text.drop offset⟩

/-- The text from the beginning of the next line on.  At the beginning of the text and after a
line feed this line has begun; after a carriage return the line feed of the same terminator is
left out; elsewhere a whole terminator is. -/
def Place.nextLine (place : Place) : Bytes :=
  match place.before with
  | none => place.after
  | some b =>
      if b = lf then place.after
      else if b = cr then
        match place.after with
        | [] => []
        | c :: cs => if c = lf then cs else c :: cs
      else (afterTerminator? place.after).getD place.after

/-- **The number of blank lines at a place.** -/
def Place.blankLines (place : Place) : Nat := countTerminators place.nextLine

/-- At the end of a text there is no blank line, whatever stands before it. -/
theorem Place.blankLines_of_after_eq_nil {place : Place} (h : place.after = []) :
    place.blankLines = 0 := by
  obtain ⟨before, after⟩ := place
  obtain rfl : after = [] := h
  have hnext : Place.nextLine ⟨before, []⟩ = [] := by
    cases before with
    | none => rfl
    | some b => simp [Place.nextLine, afterTerminator?]
  rw [Place.blankLines, hnext]
  exact countTerminators_of_none rfl

@[simp] theorem Place.ofOffset_zero (text : Bytes) : Place.ofOffset text 0 = ⟨none, text⟩ := rfl

/-! ### Lines -/

/-- A line of a text. -/
structure Line where
  /-- The text from the place that was reached before the line was read. -/
  upcoming : Bytes
  /-- The cells of the record as bytes; a blank line has none. -/
  cells : List Bytes
  deriving DecidableEq, Repr

/-- The number of bytes of a text before the place that was reached before a line was read. -/
def Line.offset (text : Bytes) (line : Line) : Nat := text.length - line.upcoming.length

/-- A blank line at a place. -/
def Place.blankLine (place : Place) : Line := ⟨place.after, []⟩

/-- The lines from a place on: the blank lines there, the next record of `unread`, and so on.
`found` holds the lines before them in reverse. -/
def collect (delimiter : UInt8) (place : Place) (unread : Bytes) (found : List Line) :
    List Line :=
  let found := List.replicate place.blankLines place.blankLine ++ found
  match _h : nextRecord? delimiter unread with
  | none => found.reverse
  | some next =>
      collect delimiter ⟨next.terminator, next.rest⟩ next.rest
        (⟨place.after, next.cells⟩ :: found)
termination_by unread.length
decreasing_by exact length_rest_lt_of_nextRecord? _h

/-- **The lines of a text.**  A byte order mark at its beginning belongs to no record. -/
def lines (delimiter : UInt8) (text : Bytes) : List Line :=
  collect delimiter (Place.ofOffset text 0) (Utf8.dropMark text) []

/-! ### One record at a time -/

/-- The lines found so far stay in front of those that follow. -/
theorem collect_eq (delimiter : UInt8) (place : Place) (unread : Bytes) (found : List Line) :
    collect delimiter place unread found
      = found.reverse ++ collect delimiter place unread [] := by
  induction hn : unread.length using Nat.strongRecOn generalizing place unread found with
  | _ n ih =>
      rw [collect, collect]
      split
      · simp
      · next next h =>
          have hlt : next.rest.length < n := hn ▸ length_rest_lt_of_nextRecord? h
          have step := fun found => ih _ hlt ⟨next.terminator, next.rest⟩ next.rest found rfl
          rw [step, step (_ :: (_ ++ []))]
          simp

/-- Where no record follows, only blank lines are left. -/
theorem collect_of_nextRecord?_none {delimiter : UInt8} {place : Place} {unread : Bytes}
    (h : nextRecord? delimiter unread = none) :
    collect delimiter place unread [] = List.replicate place.blankLines place.blankLine := by
  rw [collect]
  split
  · simp
  · simp_all

/-- Where a record follows, it comes after the blank lines and before the other lines. -/
theorem collect_of_nextRecord?_some {delimiter : UInt8} {place : Place} {unread : Bytes}
    {next : Scanned} (h : nextRecord? delimiter unread = some next) :
    collect delimiter place unread []
      = List.replicate place.blankLines place.blankLine ++ ⟨place.after, next.cells⟩
          :: collect delimiter ⟨next.terminator, next.rest⟩ next.rest [] := by
  rw [collect]
  split
  · simp_all
  · next other hother =>
      obtain rfl : other = next := Option.some.inj (hother.symm.trans h)
      rw [collect_eq]
      simp

end Delimited

end Tabular

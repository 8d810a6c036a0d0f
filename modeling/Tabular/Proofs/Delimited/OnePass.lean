/-
**Reading a text in one pass.**

`Tabular.Delimited.lines` finds the records of a text and its blank lines separately: the reader of
records skips line breaks, and at every place it reaches the terminators that follow are counted
again.  This module reads the same text once, from left to right, one byte after the other and
without ever looking back or ahead.  At the beginning of a line a terminator is a blank line; every
other byte begins a record, which the machine of `Tabular.Delimited.Mode.move` reads.  After a
carriage return that ended a line a line feed belongs to the same terminator and is passed over.

That both ways agree is proved here for every delimiter, quotes and line breaks among them, and for
every byte sequence.

Main definitions:

* `Tabular.Delimited.Event` — a blank line or a record;
* `Tabular.Delimited.PassState`, `Tabular.Delimited.PassState.step` — where the pass stands, and
  what one byte does;
* `Tabular.Delimited.onePass` — **the events of a text**.

Main results:

* `Tabular.Delimited.cells_lines` — **the lines of a text are its events**;
* `Tabular.Delimited.cells_lines_mark_append` — behind a mark the blank lines in front are lost;
* `Tabular.Delimited.parse_eq_onePass` — **parsing is one pass followed by decoding**.
-/

import Tabular.Proofs.Delimited.Decoding

set_option autoImplicit false

namespace Tabular

namespace Delimited

/-! ### The pass -/

/-- What the pass finds in a text. -/
inductive Event
  /-- A line terminator with nothing in front of it. -/
  | blankLine
  /-- A record, with the bytes of its cells. -/
  | record (cells : List Bytes)
  deriving DecidableEq, Repr

/-- The cells of a record; a blank line has none. -/
def Event.cells : Event → List Bytes
  | .blankLine => []
  | .record cells => cells

/-- Where the pass stands. -/
inductive PassState
  /-- At the beginning of a line.  After a carriage return that ended a line, a line feed still
  belongs to the same terminator. -/
  | lineStart (afterReturn : Bool)
  /-- In a record, after the cells `cells` and the bytes `cell` of the next one. -/
  | inRecord (mode : Mode) (cell : Bytes) (cells : List Bytes)
  deriving DecidableEq, Repr

namespace PassState

/-- What a byte does inside a record. -/
def stepRecord (delimiter : UInt8) (mode : Mode) (cell : Bytes) (cells : List Bytes) (b : UInt8) :
    Option Event × PassState :=
  match mode.move delimiter b with
  | .append next => (none, .inRecord next (cell ++ [b]) cells)
  | .skip next => (none, .inRecord next cell cells)
  | .endCell => (none, .inRecord .cellStart [] (cells ++ [cell]))
  | .endRecord => (some (.record (cells ++ [cell])), .lineStart (b == cr))

/-- **One step of the pass**: the event that the byte completes, if any, and the next state. -/
def step (delimiter : UInt8) : PassState → UInt8 → Option Event × PassState
  | .lineStart afterReturn, b =>
      if b = lf then (if afterReturn then none else some .blankLine, .lineStart false)
      else if b = cr then (some .blankLine, .lineStart true)
      else stepRecord delimiter .cellStart [] [] b
  | .inRecord mode cell cells, b => stepRecord delimiter mode cell cells b

/-- The event that the end of the text completes. -/
def finish : PassState → Option Event
  | .lineStart _ => none
  | .inRecord _ cell cells => some (.record (cells ++ [cell]))

/-- The events from a state on. -/
def run (delimiter : UInt8) : PassState → Bytes → List Event
  | state, [] => state.finish.toList
  | state, b :: bs => (state.step delimiter b).1.toList ++ run delimiter (state.step delimiter b).2 bs

end PassState

/-- **The events of a text**: its blank lines and records in order. -/
def onePass (delimiter : UInt8) (text : Bytes) : List Event :=
  PassState.run delimiter (.lineStart false) text

/-! ### One record -/

namespace PassState

@[simp] theorem run_nil (d : UInt8) (state : PassState) :
    run d state [] = state.finish.toList := rfl

theorem run_cons (d : UInt8) (state : PassState) (b : UInt8) (bs : Bytes) :
    run d state (b :: bs) = (state.step d b).1.toList ++ run d (state.step d b).2 bs := rfl

/-- In a record the pass finds what the reader of records finds, and goes on behind it. -/
theorem run_inRecord (d : UInt8) (mode : Mode) (cell : Bytes) (cells : List Bytes) (bs : Bytes) :
    run d (.inRecord mode cell.reverse cells.reverse) bs
      = .record (scan d mode cell cells bs).cells
        :: run d (.lineStart ((scan d mode cell cells bs).terminator == some cr))
            (scan d mode cell cells bs).rest := by
  induction bs generalizing mode cell cells with
  | nil => simp [scan, finish]
  | cons b bs ih =>
      rw [run_cons, step, stepRecord, scan]
      cases mode.move d b with
      | append next => simpa using ih next (b :: cell) cells
      | skip next => simpa using ih next cell cells
      | endCell => simpa using ih .cellStart [] (cell.reverse :: cells)
      | endRecord => simp

/-- The beginning of a line is the beginning of a record, unless a line break stands there. -/
theorem run_lineStart_of_not_lineBreak {d b : UInt8} (hb : isLineBreak b = false)
    (afterReturn : Bool) (bs : Bytes) :
    run d (.lineStart afterReturn) (b :: bs) = run d (.inRecord .cellStart [] []) (b :: bs) := by
  obtain ⟨hcr, hlf⟩ := isLineBreak_eq_false_iff.1 hb
  simp [run_cons, step, hcr, hlf]

@[simp] theorem run_lineStart_lf (d : UInt8) (bs : Bytes) :
    run d (.lineStart false) (lf :: bs) = .blankLine :: run d (.lineStart false) bs := by
  simp [run_cons, step]

@[simp] theorem run_lineStart_true_lf (d : UInt8) (bs : Bytes) :
    run d (.lineStart true) (lf :: bs) = run d (.lineStart false) bs := by
  simp [run_cons, step]

@[simp] theorem run_lineStart_cr (d : UInt8) (afterReturn : Bool) (bs : Bytes) :
    run d (.lineStart afterReturn) (cr :: bs) = .blankLine :: run d (.lineStart true) bs := by
  simp [run_cons, step]

/-- A carriage return before anything but a line feed leaves no trace. -/
theorem run_lineStart_true_of_ne_lf {d : UInt8} {bs : Bytes} (h : bs.head? ≠ some lf) :
    run d (.lineStart true) bs = run d (.lineStart false) bs := by
  cases bs with
  | nil => rfl
  | cons b bs =>
      have hlf : b ≠ lf := by simpa using h
      simp [run_cons, step, hlf]

end PassState

/-! ### Blank lines -/

theorem isLineBreak_of_afterTerminator?_none {bs : Bytes} (h : afterTerminator? bs = none) :
    ∀ b ∈ bs.head?, isLineBreak b = false := by
  unfold afterTerminator? at h
  split at h
  · simp
  · next b bs =>
      intro c hc
      obtain rfl : b = c := by simpa using hc
      split at h
      · cases h
      · next hlf =>
          split at h
          · split at h
            · cases h
            · split at h <;> cases h
          · next hcr => simp [isLineBreak, hlf, hcr]

/-- The three terminators that a text may begin with. -/
theorem eq_of_afterTerminator?_some {bs rest : Bytes} (h : afterTerminator? bs = some rest) :
    bs = lf :: rest ∨ bs = cr :: lf :: rest ∨ bs = cr :: rest ∧ rest.head? ≠ some lf := by
  unfold afterTerminator? at h
  split at h
  · cases h
  · next b bs =>
      split at h
      · next hlf =>
          obtain rfl := Option.some.inj h
          exact Or.inl (by rw [hlf])
      · split at h
        · next hcr =>
            refine Or.inr ?_
            split at h
            · obtain rfl := Option.some.inj h
              exact Or.inr ⟨by rw [hcr], by simp⟩
            · split at h
              · next hc =>
                  obtain rfl := Option.some.inj h
                  exact Or.inl (by rw [hcr, hc])
              · next hc =>
                  obtain rfl := Option.some.inj h
                  exact Or.inr ⟨by rw [hcr], by simpa using hc⟩
        · cases h

/-- The events of a text from the next record on. -/
def fromRecord (delimiter : UInt8) (text : Bytes) : List Event :=
  match nextRecord? delimiter text with
  | none => []
  | some next =>
      .record next.cells
        :: PassState.run delimiter (.lineStart (next.terminator == some cr)) next.rest

theorem fromRecord_of_afterTerminator? (d : UInt8) {bs rest : Bytes}
    (h : afterTerminator? bs = some rest) : fromRecord d bs = fromRecord d rest := by
  have hdrop : bs.dropWhile isLineBreak = rest.dropWhile isLineBreak := by
    rcases eq_of_afterTerminator?_some h with rfl | rfl | ⟨rfl, -⟩ <;> rfl
  rw [fromRecord, fromRecord, nextRecord?, nextRecord?, hdrop]

/-- At the beginning of a line the pass finds the blank lines that are counted there, and then the
next record. -/
theorem run_lineStart (d : UInt8) (bs : Bytes) :
    PassState.run d (.lineStart false) bs
      = List.replicate (countTerminators bs) .blankLine ++ fromRecord d bs := by
  fun_induction countTerminators bs with
  | case1 bs h =>
      cases bs with
      | nil => rfl
      | cons b bs =>
          -- no terminator is left, so that the record begins here
          have hb : isLineBreak b = false := isLineBreak_of_afterTerminator?_none h b rfl
          rw [PassState.run_lineStart_of_not_lineBreak hb]
          have hrecord := PassState.run_inRecord d .cellStart [] [] (b :: bs)
          simpa [fromRecord, nextRecord?, hb] using hrecord
  | case2 bs rest h ih =>
      rw [fromRecord_of_afterTerminator? d h, List.replicate_succ, List.cons_append, ← ih]
      -- a terminator of two bytes is one blank line, for the pass as for the count
      rcases eq_of_afterTerminator?_some h with rfl | rfl | ⟨rfl, hrest⟩
      · rw [PassState.run_lineStart_lf]
      · rw [PassState.run_lineStart_cr, PassState.run_lineStart_true_lf]
      · rw [PassState.run_lineStart_cr, PassState.run_lineStart_true_of_ne_lf hrest]

/-! ### Places -/

/-- The byte that ends a record is a line break. -/
theorem isLineBreak_terminator {d : UInt8} {mode : Mode} {cell : Bytes} {cells : List Bytes}
    {bs : Bytes} : ∀ b ∈ (scan d mode cell cells bs).terminator, isLineBreak b = true := by
  fun_induction scan d mode cell cells bs with
  | case1 => simp
  | case2 _ _ _ _ _ _ _ ih => exact ih
  | case3 _ _ _ _ _ _ _ ih => exact ih
  | case4 _ _ _ _ _ _ ih => exact ih
  | case5 mode cell cells b bs h =>
      intro c hc
      obtain rfl : b = c := by simpa using hc
      -- in no mode does a byte end the record unless the test for line breaks is reached
      cases mode <;> simp only [Mode.move, bareMove] at h <;> split at h <;> simp_all <;>
        split at h <;> simp_all

/-- What the reader knows about the byte before a place is what the pass knows: whether it was a
carriage return that ended a line. -/
theorem run_place (d : UInt8) (place : Place) (h : ∀ b ∈ place.before, isLineBreak b = true) :
    PassState.run d (.lineStart (place.before == some cr)) place.after
      = List.replicate place.blankLines .blankLine ++ fromRecord d place.after := by
  obtain ⟨before, bs⟩ := place
  cases before with
  | none => exact run_lineStart d bs
  | some b =>
      rcases isLineBreak_iff.1 (h b rfl) with rfl | rfl
      · cases bs with
        | nil => exact run_lineStart d []
        | cons c cs =>
            by_cases hc : c = lf
            · have hrecord : fromRecord d (lf :: cs) = fromRecord d cs :=
                fromRecord_of_afterTerminator? d rfl
              rw [hc, hrecord]
              exact (PassState.run_lineStart_true_lf d cs).trans (run_lineStart d cs)
            · have hnext : Place.nextLine ⟨some cr, c :: cs⟩ = c :: cs := by
                simp [Place.nextLine, hc]
              rw [Place.blankLines, hnext]
              exact (PassState.run_lineStart_true_of_ne_lf (by simpa using hc)).trans
                (run_lineStart d (c :: cs))
      · exact run_lineStart d bs

/-- **The lines from a place on are the blank lines there and what follows.** -/
theorem cells_collect (d : UInt8) (place : Place) (unread : Bytes) :
    (collect d place unread []).map Line.cells
      = (List.replicate place.blankLines Event.blankLine ++ fromRecord d unread).map
          Event.cells := by
  induction hn : unread.length using Nat.strongRecOn generalizing place unread with
  | _ n ih =>
      cases hnext : nextRecord? d unread with
      | none =>
          rw [collect_of_nextRecord?_none hnext]
          simp [fromRecord, hnext, Event.cells, Place.blankLine]
      | some next =>
          -- behind the record the reader counts at a place that `run_place` knows
          have hlt : next.rest.length < n := hn ▸ length_rest_lt_of_nextRecord? hnext
          have hscan : ∀ b ∈ next.terminator, isLineBreak b = true := by
            rw [eq_scan_of_nextRecord? hnext]
            exact isLineBreak_terminator
          have hplace := run_place d ⟨next.terminator, next.rest⟩ hscan
          rw [collect_of_nextRecord?_some hnext]
          simp [fromRecord, hnext, hplace, ih _ hlt _ _ rfl, Event.cells, Place.blankLine]

/-! ### Whole texts -/

/-- **The lines of a text are its events.** -/
theorem cells_lines (d : UInt8) {text : Bytes} (h : ¬ Utf8.mark <+: text) :
    (lines d text).map Line.cells = (onePass d text).map Event.cells := by
  rw [lines, Utf8.dropMark_of_not_isPrefix h, cells_collect, onePass, run_lineStart]
  rfl

/-- Behind a mark the blank lines in front of the first record are lost. -/
theorem cells_lines_mark_append (d : UInt8) (text : Bytes) :
    (lines d (Utf8.mark ++ text)).map Line.cells = (fromRecord d text).map Event.cells := by
  have hblank : (Place.ofOffset (Utf8.mark ++ text) 0).blankLines = 0 :=
    countTerminators_of_none rfl
  rw [lines, Utf8.dropMark_mark_append, cells_collect, hblank]
  rfl

theorem cells_ne_nil_of_mem_step {d b : UInt8} {state : PassState} {cells : List Bytes}
    (h : .record cells ∈ (state.step d b).1) : cells ≠ [] := by
  have hrecord : ∀ (mode : Mode) (cell : Bytes) (before : List Bytes),
      .record cells ∈ (PassState.stepRecord d mode cell before b).1 → cells ≠ [] := by
    intro mode cell before h
    rw [PassState.stepRecord] at h
    split at h <;> simp at h
    simp [← h]
  cases state with
  | lineStart afterReturn =>
      rw [PassState.step] at h
      split at h
      · split at h <;> simp at h
      · split at h
        · simp at h
        · exact hrecord _ _ _ h
  | inRecord mode cell before => exact hrecord _ _ _ h

/-- A record has at least one cell, so that only a blank line has none. -/
theorem cells_ne_nil_of_mem_run {d : UInt8} {state : PassState} {bs : Bytes} {cells : List Bytes}
    (h : .record cells ∈ PassState.run d state bs) : cells ≠ [] := by
  induction bs generalizing state with
  | nil =>
      cases state with
      | lineStart afterReturn => simp [PassState.finish] at h
      | inRecord mode cell before => simp_all [PassState.finish]
  | cons b bs ih =>
      rw [PassState.run_cons, List.mem_append] at h
      rcases h with h | h
      · exact cells_ne_nil_of_mem_step (Option.mem_toList.1 h)
      · exact ih h

theorem getElem?_cells_onePass_eq_nil_iff (d : UInt8) (text : Bytes) (i : Nat) :
    ((onePass d text).map Event.cells)[i]? = some [] ↔
      (onePass d text)[i]? = some .blankLine := by
  cases hevent : (onePass d text)[i]? with
  | none => simp [hevent]
  | some event =>
      have hmem : event ∈ onePass d text := List.mem_of_getElem? hevent
      cases event with
      | blankLine => simp [hevent, Event.cells]
      | record cells => simp [hevent, Event.cells, cells_ne_nil_of_mem_run hmem]

/-! ### Parsing -/

/-- A text, or what is left of it behind a mark, parses as its events say. -/
theorem parse_eq_ok_iff_onePass (d : UInt8) {source text : Bytes} (h : ¬ Utf8.mark <+: text)
    (hsource : Utf8.dropMark source = text) (t : Table) :
    parse d source = .ok t ↔ (onePass d text).map Event.cells = t.bytes := by
  rw [parse_eq_ok_iff, hsource, cells_lines d h]

/-- Parsing `source` is decoding the cells of `events`. -/
structure DecodesTo (delimiter : UInt8) (source : Bytes) (events : List Event) : Prop where
  /-- It succeeds exactly if all cells are valid. -/
  succeeds : (∃ t, parse delimiter source = .ok t) ↔
    ∀ event ∈ events, ∀ cell ∈ event.cells, Utf8.Valid cell
  /-- The table holds the cells of the events in order. -/
  bytes : ∀ t, parse delimiter source = .ok t → t.bytes = events.map Event.cells
  /-- The records without cells stand for the blank lines. -/
  blank : ∀ t, parse delimiter source = .ok t →
    ∀ i : Nat, t[i]? = some [] ↔ events[i]? = some .blankLine

theorem decodesTo_onePass {d : UInt8} {source text : Bytes} (h : ¬ Utf8.mark <+: text)
    (hsource : Utf8.dropMark source = text) : DecodesTo d source (onePass d text) := by
  have hparse := parse_eq_ok_iff_onePass d h hsource
  refine ⟨?_, fun t ht => ((hparse t).1 ht).symm, ?_⟩
  · rw [exists_parse_eq_ok_iff, hsource, cells_lines d h, List.forall_mem_map]
  · intro t ht i
    have hrecord : t[i]? = some [] ↔ t.bytes[i]? = some [] := by
      cases ht : t[i]? <;> simp [Table.bytes, ht]
    rw [hrecord, ← (hparse t).1 ht, getElem?_cells_onePass_eq_nil_iff]

/-- **Parsing is one pass followed by decoding**, with or without a byte order mark in front. -/
theorem parse_eq_onePass (d : UInt8) {text : Bytes} (h : ¬ Utf8.mark <+: text) :
    DecodesTo d text (onePass d text) ∧ DecodesTo d (Utf8.mark ++ text) (onePass d text) := by
  constructor
  · exact decodesTo_onePass h (Utf8.dropMark_of_not_isPrefix h)
  · exact decodesTo_onePass h (Utf8.dropMark_mark_append text)

/-- Line endings of all kinds, a line break in quotes and a quote that is never closed. -/
theorem parse_eq_onePass_mixed :
    ¬ Utf8.mark <+: Utf8.encode "\r\n\ra;\"x\n\ny\"\r\n\n;\r\r\"b" ∧
      onePass 0x3B (Utf8.encode "\r\n\ra;\"x\n\ny\"\r\n\n;\r\r\"b")
        = [.blankLine, .blankLine, .record [Utf8.encode "a", Utf8.encode "x\n\ny"], .blankLine,
          .record [[], []], .blankLine, .record [Utf8.encode "b"]] ∧
      DecodesTo 0x3B (Utf8.encode "\r\n\ra;\"x\n\ny\"\r\n\n;\r\r\"b")
        (onePass 0x3B (Utf8.encode "\r\n\ra;\"x\n\ny\"\r\n\n;\r\r\"b")) := by
  have hmark : ¬ Utf8.mark <+: Utf8.encode "\r\n\ra;\"x\n\ny\"\r\n\n;\r\r\"b" := by decide
  exact ⟨hmark, by decide, (parse_eq_onePass 0x3B hmark).1⟩

end Delimited

end Tabular

/-
**Reading one record, byte by byte.**

A record is read by a machine with four modes.  At the start of a cell a double quote opens a
quoted cell; inside quotes every byte belongs to the cell, up to the next quote; a quote seen
inside quotes either closes them or, doubled, stands for itself; and in a bare cell a quote is a
byte like any other.  Nothing is ever refused: text that no writer would produce still has a
reading.

The order of the tests matters when the delimiter is itself a quote or a line break.  A quote is
recognised first, then the delimiter, then the line break.

Main definitions:

* `Tabular.Delimited.Mode`, `Tabular.Delimited.Move` — where in a cell the reader stands, and
  what one byte does;
* `Tabular.Delimited.Mode.move` — the machine;
* `Tabular.Delimited.scan` — the record at the beginning of a text;
* `Tabular.Delimited.nextRecord?` — the same after the line breaks in front of it.

Main results:

* `Tabular.Delimited.length_rest_lt_of_nextRecord?` — **reading a record consumes part of the
  text**.
-/

import Tabular.Delimited.Delimiter

set_option autoImplicit false

namespace Tabular

namespace Delimited

/-! ### The machine -/

/-- Where in a cell the reader stands. -/
inductive Mode
  /-- Before the first byte of a cell. -/
  | cellStart
  /-- In a cell, outside quotes. -/
  | bare
  /-- Inside quotes. -/
  | quoted
  /-- Just after a quote that was seen inside quotes. -/
  | quoteSeen
  deriving DecidableEq, Repr

/-- What a byte does to the record being read. -/
inductive Move
  /-- The byte belongs to the cell. -/
  | append (next : Mode)
  /-- The byte is a quote that does not belong to the cell. -/
  | skip (next : Mode)
  /-- The byte ends the cell. -/
  | endCell
  /-- The byte ends the cell and the record. -/
  | endRecord
  deriving DecidableEq, Repr

/-- What a byte does outside quotes, quotes themselves apart. -/
def bareMove (delimiter b : UInt8) : Move :=
  if b = delimiter then .endCell
  else if isLineBreak b then .endRecord
  else .append .bare

/-- **One step of the machine.** -/
def Mode.move (delimiter : UInt8) : Mode → UInt8 → Move
  | .cellStart, b => if b = quote then .skip .quoted else bareMove delimiter b
  | .bare, b => bareMove delimiter b
  | .quoted, b => if b = quote then .skip .quoteSeen else .append .quoted
  | .quoteSeen, b => if b = quote then .append .quoted else bareMove delimiter b

/-! ### A whole record -/

/-- A record as it was found in a text. -/
structure Scanned where
  /-- The cells, quotes removed, as bytes. -/
  cells : List Bytes
  /-- The byte that ended the record, unless the text did. -/
  terminator : Option UInt8
  /-- The text after that byte. -/
  rest : Bytes
  deriving DecidableEq, Repr

/-- **The record at the beginning of a text**, read from mode `mode` on.  `cell` holds the bytes
of the current cell and `cells` the cells before it, both in reverse.  The end of the text ends
the record, whatever the mode. -/
def scan (delimiter : UInt8) : Mode → Bytes → List Bytes → Bytes → Scanned
  | _, cell, cells, [] => ⟨(cell.reverse :: cells).reverse, none, []⟩
  | mode, cell, cells, b :: bs =>
      match mode.move delimiter b with
      | .append next => scan delimiter next (b :: cell) cells bs
      | .skip next => scan delimiter next cell cells bs
      | .endCell => scan delimiter .cellStart [] (cell.reverse :: cells) bs
      | .endRecord => ⟨(cell.reverse :: cells).reverse, some b, bs⟩

/-- The next record of a text, after the line breaks in front of it, if there is one. -/
def nextRecord? (delimiter : UInt8) (text : Bytes) : Option Scanned :=
  match text.dropWhile isLineBreak with
  | [] => none
  | b :: bs => some (scan delimiter .cellStart [] [] (b :: bs))

/-- A record that is found is read from behind the line breaks on. -/
theorem eq_scan_of_nextRecord? {d : UInt8} {text : Bytes} {found : Scanned}
    (h : nextRecord? d text = some found) :
    found = scan d .cellStart [] [] (text.dropWhile isLineBreak) := by
  rw [nextRecord?] at h
  split at h
  · cases h
  · next b bs heq => rw [heq]; exact (Option.some.inj h).symm

/-! ### Progress -/

/-- What is left after a record is no longer than what was there. -/
theorem length_rest_scan_le (delimiter : UInt8) (mode : Mode) (cell : Bytes) (cells : List Bytes)
    (bs : Bytes) : (scan delimiter mode cell cells bs).rest.length ≤ bs.length := by
  fun_induction scan delimiter mode cell cells bs with
  | case1 => simp
  | case2 _ _ _ _ _ _ _ ih => exact Nat.le_succ_of_le ih
  | case3 _ _ _ _ _ _ _ ih => exact Nat.le_succ_of_le ih
  | case4 _ _ _ _ _ _ ih => exact Nat.le_succ_of_le ih
  | case5 => simp

/-- A record that begins with a byte consumes that byte. -/
theorem length_rest_scan_cons_le (delimiter : UInt8) (mode : Mode) (cell : Bytes)
    (cells : List Bytes) (b : UInt8) (bs : Bytes) :
    (scan delimiter mode cell cells (b :: bs)).rest.length ≤ bs.length := by
  rw [scan]
  split
  · exact length_rest_scan_le ..
  · exact length_rest_scan_le ..
  · exact length_rest_scan_le ..
  · exact Nat.le_refl _

/-- **Reading a record consumes part of the text.** -/
theorem length_rest_lt_of_nextRecord? {delimiter : UInt8} {text : Bytes} {found : Scanned}
    (h : nextRecord? delimiter text = some found) : found.rest.length < text.length := by
  have hle : (text.dropWhile isLineBreak).length ≤ text.length :=
    (List.dropWhile_suffix isLineBreak).length_le
  rw [nextRecord?] at h
  split at h
  · cases h
  · next b bs heq =>
      injection h with h
      subst h
      have hscan := length_rest_scan_cons_le delimiter .cellStart [] [] b bs
      rw [heq, List.length_cons] at hle
      omega

end Delimited

end Tabular

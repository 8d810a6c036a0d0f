/-
**Writing piece by piece.**

A writer takes records or lines and holds the bytes written so far.  What it holds depends only on
what it was given, not on how that was divided into calls.

Main definitions:

* `Tabular.TableWriter` — a delimited text that is being written;
* `Tabular.printLines`, `Tabular.LineWriter` — lines of plain text.

Main results:

* `Tabular.TableWriter.append_eq_foldl` — **writing a table is writing its records one by one**;
* `Tabular.printLines_eq_encode` — lines are written as one text.
-/

import Tabular.Delimited.Printer

set_option autoImplicit false

namespace Tabular

/-! ### Records -/

/-- A delimited text that is being written. -/
structure TableWriter where
  delimiter : UInt8
  /-- The bytes written so far. -/
  written : Bytes := []
  deriving DecidableEq, Repr

namespace TableWriter

/-- Writes the records of a table. -/
def append (writer : TableWriter) (table : Table) : TableWriter :=
  { writer with written := writer.written ++ Delimited.print writer.delimiter table }

/-- Writes one record. -/
def push (writer : TableWriter) (record : Record) : TableWriter :=
  { writer with written := writer.written ++ Delimited.printRecord writer.delimiter record }

/-- **Writing a table is writing its records one by one.** -/
theorem append_eq_foldl (writer : TableWriter) (table : Table) :
    writer.append table = table.foldl push writer := by
  induction table generalizing writer with
  | nil => simp [append]
  | cons record table ih =>
      rw [List.foldl_cons, ← ih]
      simp [append, push]

end TableWriter

/-! ### Lines -/

/-- Lines of text, each ended by a line feed. -/
def printLines (lines : List String) : Bytes :=
  lines.flatMap fun line => Utf8.encode line ++ [Delimited.lf]

@[simp] theorem printLines_append (xs ys : List String) :
    printLines (xs ++ ys) = printLines xs ++ printLines ys := by
  simp [printLines]

/-- Lines are written as one text, in which a line feed stands behind each of them. -/
theorem printLines_eq_encode (lines : List String) :
    printLines lines
      = Utf8.encode (String.ofList (lines.flatMap fun line => line.toList ++ ['\n'])) := by
  have hend : Utf8.encode (String.ofList ['\n']) = [Delimited.lf] := by decide
  induction lines with
  | nil => rfl
  | cons line lines ih =>
      rw [List.flatMap_cons, String.ofList_append, String.ofList_append, String.ofList_toList,
        Utf8.encode_append, Utf8.encode_append, ← ih, hend]
      rfl

/-- Lines of text that are being written. -/
structure LineWriter where
  /-- The bytes written so far. -/
  written : Bytes := []
  deriving DecidableEq, Repr

/-- Writes lines. -/
def LineWriter.append (writer : LineWriter) (lines : List String) : LineWriter :=
  { writer with written := writer.written ++ printLines lines }

end Tabular

/-
**Parsing a table.**

A delimited text is cut into lines and the cells of every line are decoded.  A blank line becomes
a record without cells, so that the position of a record in the table is the number of its line as
long as no cell holds a line break.  The only thing that can go wrong is a cell that is not UTF-8:
then the first such cell is reported and there is no table.

One byte order mark in front of the text is left out before the lines are cut.

Main definitions:

* `Tabular.Delimited.Malformed` — what is wrong with a text, and where;
* `Tabular.Delimited.Line.record` — the record on one line;
* `Tabular.Delimited.parse` — **the table that a byte sequence holds**.
-/

import Tabular.Table
import Tabular.Delimited.Line

set_option autoImplicit false

namespace Tabular

namespace Delimited

/-! ### What can be wrong with a text -/

/-- A place in a text as it is told to a user: where the reader stood before the record that is at
fault. -/
structure Position where
  /-- The number of records before it, blank lines not counted. -/
  record : Nat
  /-- The number of the line that was reached, counted in line feeds from 1. -/
  line : Nat
  /-- The number of bytes before the place. -/
  byte : Nat
  deriving DecidableEq, Repr

/-- A cell that is not UTF-8. -/
structure BadCell where
  /-- The position of the cell in its record, from 0. -/
  field : Nat
  /-- The number of its bytes in front of the first one that is no part of a character. -/
  index : Nat
  deriving DecidableEq, Repr

/-- A reason why a text holds no table. -/
inductive Malformed
  /-- A cell of the record after `position` is not UTF-8. -/
  | notUtf8 (position : Position) (cell : BadCell)
  /-- A reason in words. -/
  | other (reason : String)
  deriving DecidableEq, Repr

/-- The reason in words. -/
def Malformed.text : Malformed → String
  | .notUtf8 position cell =>
      "CSV parse error: record " ++ toString position.record
        ++ " (line " ++ toString position.line
        ++ ", field: " ++ toString cell.field
        ++ ", byte: " ++ toString position.byte
        ++ "): invalid utf-8: invalid UTF-8 in field " ++ toString cell.field
        ++ " near byte index " ++ toString cell.index
  | .other reason => reason

/-! ### Decoding the lines -/

/-- The text of the cell with number `field`. -/
def decodeCell (cell : Bytes) (field : Nat) : Except BadCell String :=
  match Utf8.decode? cell with
  | some text => .ok text
  | none => .error ⟨field, Utf8.validLength cell⟩

/-- **The record on a line**, or the first of its cells that is not UTF-8. -/
def Line.record (line : Line) : Except BadCell Record :=
  line.cells.zipIdx.mapM fun (cell, field) => decodeCell cell field

/-- The position before a line of a text, where `earlier` holds the lines in front of it. -/
def Line.position (text : Bytes) (earlier : List Line) (line : Line) : Position where
  record := earlier.countP fun l => !l.cells.isEmpty
  line := 1 + (text.take (line.offset text)).count lf
  byte := line.offset text

/-- The records on the lines of a text. -/
def decodeLines (text : Bytes) (found : List Line) : Except Malformed Table :=
  found.zipIdx.mapM fun (line, number) =>
    match line.record with
    | .ok record => .ok record
    | .error cell => .error (.notUtf8 (line.position text (found.take number)) cell)

/-- **The table that a byte sequence holds**, with cells separated by `delimiter`. -/
def parse (delimiter : UInt8) (source : Bytes) : Except Malformed Table :=
  let text := Utf8.dropMark source
  decodeLines text (lines delimiter text)

end Delimited

end Tabular

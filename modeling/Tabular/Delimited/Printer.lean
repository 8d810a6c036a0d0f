/-
**Printing a table.**

A record is written as its cells, separated by the delimiter and ended by a line feed.  A cell is
put in quotes, with its own quotes doubled, if it holds the delimiter, a quote or a line break.  A
record that would leave an empty line is written as a pair of quotes instead, because an empty
line is read as a record without cells.

Main definitions:

* `Tabular.Delimited.needsQuotes`, `Tabular.Delimited.printCell` — one cell;
* `Tabular.Delimited.printRecord`, `Tabular.Delimited.print` — **the text of a record and of a
  table**.
-/

import Tabular.Table
import Tabular.Delimited.Delimiter

set_option autoImplicit false

namespace Tabular

namespace Delimited

/-- Whether a cell with these bytes must be quoted. -/
def needsQuotes (delimiter : UInt8) (cell : Bytes) : Bool :=
  cell.any fun b => b == delimiter || b == quote || isLineBreak b

/-- The bytes of a cell with every quote doubled. -/
def doubleQuotes (cell : Bytes) : Bytes :=
  cell.flatMap fun b => if b = quote then [quote, quote] else [b]

theorem doubleQuotes_cons (b : UInt8) (cell : Bytes) :
    doubleQuotes (b :: cell) = (if b = quote then [quote, quote] else [b]) ++ doubleQuotes cell :=
  rfl

/-- The bytes of a cell in quotes. -/
def quoted (cell : Bytes) : Bytes := quote :: (doubleQuotes cell ++ [quote])

/-- The bytes that stand for a cell: its own, in quotes where they are needed. -/
def printCell (delimiter : UInt8) (cell : Bytes) : Bytes :=
  if needsQuotes delimiter cell then quoted cell else cell

/-- The cells of a record, separated by the delimiter. -/
def joinCells (delimiter : UInt8) (record : Record) : Bytes :=
  [delimiter].intercalate (record.map fun cell => printCell delimiter (Utf8.encode cell))

/-- **The line for a record.** -/
def printRecord (delimiter : UInt8) (record : Record) : Bytes :=
  let line := joinCells delimiter record
  (if line.isEmpty then [quote, quote] else line) ++ [lf]

/-- **The text of a table.** -/
def print (delimiter : UInt8) (table : Table) : Bytes := table.flatMap (printRecord delimiter)

@[simp] theorem print_nil (delimiter : UInt8) : print delimiter [] = [] := rfl

@[simp] theorem print_cons (delimiter : UInt8) (record : Record) (table : Table) :
    print delimiter (record :: table) = printRecord delimiter record ++ print delimiter table :=
  rfl

@[simp] theorem print_append (delimiter : UInt8) (t u : Table) :
    print delimiter (t ++ u) = print delimiter t ++ print delimiter u := by
  simp [print]

end Delimited

end Tabular

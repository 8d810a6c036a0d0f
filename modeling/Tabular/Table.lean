/-
**Tables.**

A table is a list of records and a record is a list of cells.  Records need not have the same
length, and a record without cells stands for a blank line.

Main definitions:

* `Tabular.Record`, `Tabular.Table` — the data that every tool of the library works on.
-/

set_option autoImplicit false

namespace Tabular

/-- One row of a table: its cells in order.  A blank row has none. -/
abbrev Record := List String

/-- The rows of a table in order, blank rows included. -/
abbrev Table := List Record

end Tabular

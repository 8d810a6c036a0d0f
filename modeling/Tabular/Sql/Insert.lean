/-
**INSERT statements.**

Every row that is not blank becomes one statement.  Its values are a token for the generated key,
written as it stands, then the cells of the row as literals, then one more literal that is the same
in all rows.  The first and the last are optional.  The name of the target table is written as it
is given.

Main definitions:

* `Tabular.Sql.Inserter` — what the statements of one table share;
* `Tabular.Sql.Inserter.statement?` — the statement for a row;
* `Tabular.Sql.Inserter.statements` — **the statements for a table**.
-/

import Tabular.Table
import Tabular.Sql.Literal

set_option autoImplicit false

namespace Tabular

namespace Sql

/-- What stands for a key that the database makes. -/
def defaultSurrogate : String := "DEFAULT"

/-- What the statements for one target table share. -/
structure Inserter where
  /-- The name of the target table, as written. -/
  target : String
  /-- A value that every row gets at its end. -/
  partition : Option String := none
  /-- What stands for the key that the database makes, as written. -/
  surrogate : Option String := some defaultSurrogate
  /-- The number of characters that a literal keeps. -/
  limit : Nat := defaultLimit
  deriving DecidableEq, Repr

namespace Inserter

/-- The values for a row as they are written. -/
def values (inserter : Inserter) (row : Record) : List String :=
  inserter.surrogate.toList
    ++ (row ++ inserter.partition.toList).map fun cell => literal inserter.limit (some cell)

/-- The statement with given values. -/
def statementOf (target : String) (values : List String) : String :=
  "INSERT INTO " ++ target ++ " VALUES (" ++ ", ".intercalate values ++ ");"

theorem toList_statementOf (target : String) (values : List String) :
    (statementOf target values).toList
      = "INSERT INTO ".toList ++ target.toList ++ " VALUES (".toList
        ++ (", ".intercalate values).toList ++ ");".toList := by
  unfold statementOf
  simp only [String.toList_append]

/-- **The statement for a row.**  There is none for a blank row. -/
def statement? (inserter : Inserter) (row : Record) : Option String :=
  if row.isEmpty then none else some (statementOf inserter.target (inserter.values row))

/-- **The statements for a table**, one for each row that is not blank. -/
def statements (inserter : Inserter) (table : Table) : List String :=
  table.filterMap inserter.statement?

@[simp] theorem statements_nil_cons (inserter : Inserter) (table : Table) :
    inserter.statements ([] :: table) = inserter.statements table := rfl

@[simp] theorem statements_cons_cons (inserter : Inserter) (cell : String) (row : Record)
    (table : Table) :
    inserter.statements ((cell :: row) :: table)
      = statementOf inserter.target (inserter.values (cell :: row))
        :: inserter.statements table := rfl

@[simp] theorem statements_append (inserter : Inserter) (t u : Table) :
    inserter.statements (t ++ u) = inserter.statements t ++ inserter.statements u := by
  simp [statements]

end Inserter

end Sql

end Tabular

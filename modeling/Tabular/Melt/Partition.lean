/-
**Which columns are melted and which are kept.**

Melting a table turns some of its columns into rows.  The melted columns are those the user asks
for, in that order; the kept ones are all others, in the order of the table.  Unlike a projection,
a melt is refused when a requested column does not exist, or when none is requested.

Main definitions:

* `Tabular.Melt.Refusal` — why a melt is refused;
* `Tabular.Melt.Partition` — the kept and the melted columns;
* `Tabular.Melt.Partition.ofRequests` — **the partition that requested columns make**.
-/

import Tabular.Column

set_option autoImplicit false

namespace Tabular

namespace Melt

/-- Why a table cannot be melted. -/
inductive Refusal
  /-- No column is to be melted. -/
  | nothingRequested
  /-- A requested column is not among the `width` columns of the header. -/
  | noSuchColumn (index : Int) (width : Nat)
  | noHeader
  deriving DecidableEq, Repr

/-- The refusal in words. -/
def Refusal.message : Refusal → String
  | .nothingRequested => "No columns selected to melt"
  | .noSuchColumn index width =>
      "Column " ++ toString index ++ " is out of range (header has " ++ toString width
        ++ " columns)"
  | .noHeader => "Input table is empty"

/-- The columns of a table, divided into those that are kept and those that are melted. -/
structure Partition where
  /-- The kept columns, ascending. -/
  kept : List Nat
  /-- The melted columns, in the order of the requests. -/
  melted : List Nat
  width : Nat
  deriving DecidableEq, Repr

/-- The position of a column that is to be melted. -/
def locate (width : Nat) (index : Int) : Except Refusal Nat :=
  match Column.position? index width with
  | some i => .ok i
  | none => .error (.noSuchColumn index width)

/-- **The partition that requested columns make** of a table with `width` columns.  The first
request that does not exist is reported. -/
def Partition.ofRequests (width : Nat) (requests : List Int) : Except Refusal Partition :=
  if requests.isEmpty then .error .nothingRequested
  else do
    let melted ← (Column.distinct requests).mapM (locate width)
    return ⟨(List.range width).filter (· ∉ melted), melted, width⟩

end Melt

end Tabular

/-
**The bytes that give a delimited text its shape.**

Cells are separated by a delimiter byte that the user chooses, lines end with a carriage return,
a line feed or both, and double quotes protect a cell that holds one of these.

Main definitions:

* `Tabular.Delimited.quote`, `Tabular.Delimited.cr`, `Tabular.Delimited.lf` — the fixed bytes;
* `Tabular.Delimited.namedDelimiter` — the delimiter that a command-line argument names.
-/

import Tabular.Utf8

set_option autoImplicit false

namespace Tabular

namespace Delimited

/-! ### The fixed bytes -/

/-- The double quote. -/
def quote : UInt8 := 0x22

/-- The carriage return. -/
def cr : UInt8 := 0x0D

/-- The line feed. -/
def lf : UInt8 := 0x0A

/-- The comma, which separates cells unless another delimiter is named. -/
def comma : UInt8 := 0x2C

/-- The tabulator. -/
def tab : UInt8 := 0x09

/-- Whether a byte begins a line terminator. -/
def isLineBreak (b : UInt8) : Bool := b == cr || b == lf

@[simp] theorem cr_ne_lf : cr ≠ lf := by decide

theorem isLineBreak_iff {b : UInt8} : isLineBreak b = true ↔ b = cr ∨ b = lf := by
  simp [isLineBreak]

theorem isLineBreak_eq_false_iff {b : UInt8} : isLineBreak b = false ↔ b ≠ cr ∧ b ≠ lf := by
  simp [isLineBreak]

/-! ### Naming a delimiter -/

/-- An argument that names no delimiter. -/
structure BadDelimiter where
  argument : String

/-- The complaint about an argument that names no delimiter. -/
def BadDelimiter.message (bad : BadDelimiter) : String :=
  "delimiter must be a single ASCII character, got '" ++ bad.argument ++ "'"

/-- **The delimiter an argument names**: a single ASCII character names itself, and the tabulator
may also be written `tab` or as a backslash and a `t`. -/
def namedDelimiter (argument : String) : Except BadDelimiter UInt8 :=
  if argument = "tab" ∨ argument = "\\t" then .ok tab
  else
    match Utf8.encode argument with
    | [b] => .ok b
    | _ => .error ⟨argument⟩

end Delimited

end Tabular

/-
**Classes of characters.**

Which characters of all scripts are blank, which are letters and which are numbers.  A class is
given by the runs of code points that belong to it.

Main definitions:

* `Tabular.isBlank` — whether a character is blank;
* `Tabular.isAlphabetic`, `Tabular.isAlphanumeric` — whether a character is a letter, or a letter
  or a number.
-/

import Tabular.CharClass.Runs

set_option autoImplicit false

namespace Tabular

/-- Whether a character lies in one of some runs, each given by its first and last code point. -/
def inRuns (runs : List (Nat × Nat)) (c : Char) : Bool :=
  runs.any fun (first, last) => first ≤ c.toNat && c.toNat ≤ last

/-! ### Blanks -/

/-- The spaces of all widths, the tabulators, and what ends a line or a paragraph. -/
def blankRuns : List (Nat × Nat) :=
  [(0x9, 0xD), (0x20, 0x20), (0x85, 0x85), (0xA0, 0xA0), (0x1680, 0x1680), (0x2000, 0x200A),
    (0x2028, 0x2029), (0x202F, 0x202F), (0x205F, 0x205F), (0x3000, 0x3000)]

/-- Whether a character is blank. -/
def isBlank : Char → Bool := inRuns blankRuns

/-! ### Letters and numbers -/

/-- Whether a character is a letter, or used as one. -/
def isAlphabetic : Char → Bool := inRuns alphabeticRuns

/-- Whether a character is a letter or a number. -/
def isAlphanumeric (c : Char) : Bool := isAlphabetic c || inRuns numericRuns c

end Tabular

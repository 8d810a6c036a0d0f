/-
**The smallest parts of patterns.**

A character of a pattern stands for itself unless it is an operator.  After a backslash, an
operator stands for itself too, and letters stand for control characters, for places in the text or
for families of characters; two, four or eight hexadecimal digits give the code of a character.

No tables of the families and of the cases of all scripts are at hand.  So a pattern that needs
them is refused, as is one that could match part of a character only, which byte by byte matching
makes possible.

Main definitions:

* `Tabular.Pattern.Atom` — what a character or an escape stands for;
* `Tabular.Pattern.escape?` — **the atom after a backslash**;
* `Tabular.Pattern.Atom.isAllowed` — whether an atom can be used.

Main results:

* `Tabular.Pattern.length_le_of_escape?` — an escape leaves a part of the text.
-/

import Tabular.Pattern.Flags

set_option autoImplicit false

namespace Tabular

namespace Pattern

/-! ### Atoms -/

/-- What a character or an escape stands for. -/
inductive Atom
  | char (c : Char)
  /-- The character or byte of a code of two digits. -/
  | byte (c : Char)
  /-- The digits, the blanks or the letters, or all other characters. -/
  | family (negated : Bool)
  | any
  /-- The beginning or the end of a line or of the text. -/
  | edge
  /-- The beginning or the end of a word, or a place that is neither. -/
  | wordEdge
  deriving DecidableEq, Repr

/-- Whether a character can be part of a set. -/
def isAllowedInSet (flags : Flags) (c : Char) : Bool :=
  if flags.unicode then !flags.ignoreCase else c.toNat < 128

/-- Whether a family can be used. -/
def isAllowedFamily (flags : Flags) (negated : Bool) : Bool := !flags.unicode && !negated

/-- **Whether an atom can be used** outside a set. -/
def Atom.isAllowed (flags : Flags) : Atom → Bool
  | .char _ => !(flags.unicode && flags.ignoreCase)
  | .byte c => isAllowedInSet flags c
  | .family negated => isAllowedFamily flags negated
  | .any => flags.unicode
  | .edge => true
  | .wordEdge => !flags.unicode

/-! ### Escapes -/

/-- The value of a hexadecimal digit. -/
def hexValue? (c : Char) : Option Nat :=
  if c.isDigit then some (c.toNat - '0'.toNat)
  else if 'a' ≤ c ∧ c ≤ 'f' then some (c.toNat - 'a'.toNat + 10)
  else if 'A' ≤ c ∧ c ≤ 'F' then some (c.toNat - 'A'.toNat + 10)
  else none

/-- The number that a text begins with, written in `count` hexadecimal digits after those of
`value`, and the rest of the text. -/
def hexNumber? (flags : Flags) : Nat → Nat → List Char → Option (Nat × List Char)
  | 0, value, cs => some (value, cs)
  | count + 1, value, cs =>
      match skip flags cs with
      | [] => none
      | c :: rest => do
          let digit ← hexValue? c
          hexNumber? flags count (16 * value + digit) rest

/-- The character with a code of `count` digits at the beginning of a text, and the rest. -/
def charOfCode? (flags : Flags) (count : Nat) (cs : List Char) : Option (Char × List Char) := do
  let (code, rest) ← hexNumber? flags count 0 cs
  if code.isValidChar then some (Char.ofNat code, rest) else none

/-- The control characters that have a letter. -/
def controls : List (Char × Char) :=
  [('a', '\x07'), ('f', '\x0c'), ('n', '\n'), ('r', '\r'), ('t', '\t'), ('v', '\x0b')]

/-- Whether a backslash in front of a character leaves it as it is: it is one of the first 128,
and neither a letter nor a digit. -/
def standsForItself (c : Char) : Bool := c.toNat < 128 && !c.isAlphanum

/-- What a letter or a sign stands for after a backslash, codes apart. -/
def escapeOf? (c : Char) : Option Atom :=
  if ['d', 's', 'w'].contains c then some (.family false)
  else if ['D', 'S', 'W'].contains c then some (.family true)
  else if ['A', 'z'].contains c then some .edge
  else if ['b', 'B', '<', '>'].contains c then some .wordEdge
  else match controls.lookup c with
    | some control => some (.char control)
    | none => if standsForItself c then some (.char c) else none

/-- **The atom after a backslash**, and the rest of the text. -/
def escape? (flags : Flags) : List Char → Option (Atom × List Char)
  | [] => none
  | 'x' :: cs => (charOfCode? flags 2 cs).map fun (c, rest) => (.byte c, rest)
  | 'u' :: cs => (charOfCode? flags 4 cs).map fun (c, rest) => (.char c, rest)
  | 'U' :: cs => (charOfCode? flags 8 cs).map fun (c, rest) => (.char c, rest)
  | c :: cs => (escapeOf? c).map fun atom => (atom, cs)

/-! ### Progress -/

theorem length_le_of_hexNumber? {flags : Flags} {count value code : Nat} {cs rest : List Char}
    (h : hexNumber? flags count value cs = some (code, rest)) : rest.length ≤ cs.length := by
  fun_induction hexNumber? flags count value cs with
  | case1 => simp_all
  | case2 => cases h
  | case3 count value cs c tail hskip ih =>
      obtain ⟨digit, -, h⟩ := Option.bind_eq_some_iff.1 h
      have hle := length_skip_le flags cs
      rw [hskip, List.length_cons] at hle
      have := ih digit h
      omega

theorem length_le_of_charOfCode? {flags : Flags} {count : Nat} {c : Char} {cs rest : List Char}
    (h : charOfCode? flags count cs = some (c, rest)) : rest.length ≤ cs.length := by
  obtain ⟨⟨code, tail⟩, hcode, h⟩ := Option.bind_eq_some_iff.1 h
  simp only at h
  split at h
  · cases h
    exact length_le_of_hexNumber? hcode
  · cases h

/-- **An escape leaves a part of the text.** -/
theorem length_le_of_escape? {flags : Flags} {atom : Atom} {cs rest : List Char}
    (h : escape? flags cs = some (atom, rest)) : rest.length ≤ cs.length := by
  rw [escape?.eq_def] at h
  split at h
  · cases h
  · obtain ⟨⟨c, tail⟩, hcode, h⟩ := Option.map_eq_some_iff.1 h
    cases h
    exact Nat.le_succ_of_le (length_le_of_charOfCode? hcode)
  · obtain ⟨⟨c, tail⟩, hcode, h⟩ := Option.map_eq_some_iff.1 h
    cases h
    exact Nat.le_succ_of_le (length_le_of_charOfCode? hcode)
  · obtain ⟨⟨c, tail⟩, hcode, h⟩ := Option.map_eq_some_iff.1 h
    cases h
    exact Nat.le_succ_of_le (length_le_of_charOfCode? hcode)
  · obtain ⟨a, -, h⟩ := Option.map_eq_some_iff.1 h
    cases h
    exact Nat.le_succ _

end Pattern

end Tabular

/-
**Flags of patterns.**

A pattern is a regular expression.  How its characters are understood depends on flags, which a
pattern may set for the rest of a group: letters may stand for both cases, characters may be single
bytes, and blanks and comments may be without meaning.  Other flags change what a pattern matches,
but not whether it is one.

Main definitions:

* `Tabular.Pattern.Flags` — the flags that matter here;
* `Tabular.Pattern.Flags.setAll?` — **setting flags**;
* `Tabular.Pattern.skip` — leaving out what has no meaning.

Main results:

* `Tabular.Pattern.length_skip_le` — nothing is added to the text.
-/

import Tabular.CharClass

set_option autoImplicit false

namespace Tabular

namespace Pattern

/-! ### Flags -/

/-- How the characters of a pattern are understood. -/
structure Flags where
  /-- Letters stand for both cases. -/
  ignoreCase : Bool := false
  /-- Characters are those of all scripts, and not bytes. -/
  unicode : Bool := true
  /-- Blanks and comments have no meaning. -/
  verbose : Bool := false
  deriving DecidableEq, Repr

namespace Flags

/-- The letters of all flags. -/
def letters : List Char := ['i', 'm', 's', 'U', 'u', 'R', 'x']

/-- Sets the flag of a letter. -/
def set (value : Bool) (flags : Flags) (letter : Char) : Flags :=
  match letter with
  | 'i' => { flags with ignoreCase := value }
  | 'u' => { flags with unicode := value }
  | 'x' => { flags with verbose := value }
  | _ => flags

/-- **Sets the flags of some letters**, and unsets those of the letters after a hyphen.  No letter
may be there twice, and something must follow the hyphen. -/
def setAll? (flags : Flags) (word : List Char) : Option Flags :=
  if (word.all fun c => c == '-' || letters.contains c) && decide word.Nodup
      && word.getLast? != some '-' then
    some ((word.dropWhile (· != '-')).foldl (set false)
      ((word.takeWhile (· != '-')).foldl (set true) flags))
  else none

end Flags

/-! ### Blanks and comments -/

/-- The text after the blanks and comments at its beginning.  A comment begins with a number sign
and goes on to the end of the line; `comment` says whether one has begun. -/
def skipComments : Bool → List Char → List Char
  | _, [] => []
  | true, c :: cs => skipComments (c != '\n') cs
  | false, c :: cs =>
      if isBlank c then skipComments false cs
      else if c == '#' then skipComments true cs
      else c :: cs

/-- The text after what has no meaning at its beginning. -/
def skip (flags : Flags) (cs : List Char) : List Char :=
  if flags.verbose then skipComments false cs else cs

theorem length_skipComments_le (comment : Bool) (cs : List Char) :
    (skipComments comment cs).length ≤ cs.length := by
  fun_induction skipComments comment cs with
  | case1 => simp
  | case2 _ _ ih => exact Nat.le_succ_of_le ih
  | case3 _ _ _ ih => exact Nat.le_succ_of_le ih
  | case4 _ _ _ _ ih => exact Nat.le_succ_of_le ih
  | case5 => exact Nat.le_refl _

/-- **Nothing is added to the text.** -/
theorem length_skip_le (flags : Flags) (cs : List Char) :
    (skip flags cs).length ≤ cs.length := by
  rw [skip]
  split
  · exact length_skipComments_le false cs
  · exact Nat.le_refl _

end Pattern

end Tabular

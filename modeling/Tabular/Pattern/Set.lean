/-
**Sets of characters.**

A set stands in square brackets: characters, ranges, families, classes by name and other sets, and
two sets with an operator between them.  A caret at the beginning turns it into all other
characters.  Hyphens at the beginning stand for themselves, and so does a closing bracket if nothing
is in front of it.

Sets are not kept.  What counts is whether there is a set at all, and how deep it is: one more than
the deepest of its parts, and one more again where it has several parts or an operator.

Main definitions:

* `Tabular.Pattern.OpenSet` — a set of which the end has not been reached;
* `Tabular.Pattern.setStep?` — what the next character does to the open sets;
* `Tabular.Pattern.set?` — **the depth of the set behind an opening bracket**.

Main results:

* `Tabular.Pattern.length_le_of_set?` — a set leaves a part of the text.
-/

import Tabular.Pattern.Atom

set_option autoImplicit false

namespace Tabular

namespace Pattern

/-! ### Members -/

/-- The names of the classes. -/
def classNames : List String :=
  ["alnum", "alpha", "ascii", "blank", "cntrl", "digit", "graph", "lower", "print", "punct",
    "space", "upper", "word", "xdigit"]

/-- The text after the name of a class and its end. -/
def afterClassName? (cs : List Char) : Option (List Char) :=
  match cs.dropWhile (· != ':') with
  | ':' :: ']' :: rest =>
      if classNames.contains (String.ofList (cs.takeWhile (· != ':'))) then some rest else none
  | _ => none

/-- Whether the class behind an opening bracket is negated, and the text after it. -/
def className? : List Char → Option (Bool × List Char)
  | ':' :: '^' :: cs => (afterClassName? cs).map fun rest => (true, rest)
  | ':' :: cs => (afterClassName? cs).map fun rest => (false, rest)
  | _ => none

/-- Whether a set or class can be used.  Byte by byte, what it leaves out would match parts of
characters. -/
def isAllowedNegation (flags : Flags) (negated : Bool) : Bool := flags.unicode || !negated

/-- Whether a class can be used. -/
def isAllowedClass (flags : Flags) (negated : Bool) : Bool :=
  isAllowedNegation flags negated && !(flags.unicode && flags.ignoreCase)

/-- What begins with the character `c` of a set: an escape or the character itself. -/
def member? (flags : Flags) (c : Char) (cs : List Char) : Option (Atom × List Char) :=
  if c = '\\' then escape? flags cs else some (.char c, cs)

/-- The character that an atom stands for. -/
def Atom.char? : Atom → Option Char
  | .char c => some c
  | .byte c => some c
  | _ => none

/-- Whether an atom can be in a set. -/
def Atom.isAllowedInSet (flags : Flags) : Atom → Bool
  | .char c => Pattern.isAllowedInSet flags c
  | .byte c => Pattern.isAllowedInSet flags c
  | .family negated => isAllowedFamily flags negated
  | _ => false

/-- Whether two atoms are the ends of a range. -/
def isRange (flags : Flags) (first last : Atom) : Bool :=
  match first.char?, last.char? with
  | some c, some d => c ≤ d && Pattern.isAllowedInSet flags c && Pattern.isAllowedInSet flags d
  | _, _ => false

/-- The character that decides whether a hyphen in front of a text makes a range.  Of the comments
only the first sign of one is left out. -/
def afterHyphen (flags : Flags) (cs : List Char) : Option Char :=
  if flags.verbose then
    let body := cs.dropWhile isBlank
    let body := if body.head? == some '#' then (body.drop 1).dropWhile isBlank else body
    body.head? <|> cs.head?
  else cs.head?

/-- The text after the last character of a range, which begins behind its hyphen, if there is such
a range. -/
def rangeEnd? (flags : Flags) (first : Atom) (cs : List Char) : Option (List Char) :=
  match skip flags cs with
  | [] => none
  | c :: tail => do
      let (last, rest) ← member? flags c tail
      if isRange flags first last then some rest else none

/-- The text after a member of a set or a range, which begins with the character `c`, if it can be
used. -/
def item? (flags : Flags) (c : Char) (cs : List Char) : Option (List Char) := do
  let (first, rest) ← member? flags c cs
  let single := if first.isAllowedInSet flags then some (skip flags rest) else none
  match skip flags rest with
  | '-' :: tail =>
      if [some ']', some '-'].contains (afterHyphen flags tail) then single
      else rangeEnd? flags first tail
  | _ => single

/-! ### Open sets -/

/-- A set of which the end has not been reached. -/
structure OpenSet where
  /-- The depth of what stands in front of the last operator. -/
  left : Option Nat := none
  /-- The number of parts after it. -/
  count : Nat := 0
  /-- The depth of the deepest of them. -/
  depth : Nat := 0
  /-- Whether only hyphens have been read. -/
  isFresh : Bool := true
  deriving DecidableEq, Repr

namespace OpenSet

/-- Adds a part of some depth. -/
def push (set : OpenSet) (depth : Nat) : OpenSet :=
  { set with count := set.count + 1, depth := max set.depth depth, isFresh := false }

/-- The depth of what has been read. -/
def total (set : OpenSet) : Nat :=
  let right := if set.count < 2 then set.depth else set.depth + 1
  match set.left with
  | none => right
  | some left => max left right + 1

/-- Adds an operator. -/
def operator (set : OpenSet) : OpenSet := { left := some set.total, isFresh := false }

/-- Whether a character stands for itself because of its place at the beginning. -/
def isPlain (set : OpenSet) (c : Char) : Bool :=
  set.isFresh && (c == '-' || (c == ']' && set.count == 0))

end OpenSet

/-- What is known after a character of a set. -/
inductive SetState
  /-- The innermost set and those around it are open. -/
  | within (set : OpenSet) (outer : List OpenSet)
  /-- The outermost set has ended; this is its depth. -/
  | done (depth : Nat)
  deriving DecidableEq, Repr

/-- The text of a set after the opening bracket and a caret, if the set can be used. -/
def opened? (flags : Flags) (cs : List Char) : Option (List Char) :=
  match skip flags cs with
  | '^' :: rest => if isAllowedNegation flags true then some rest else none
  | rest => some rest

/-- Ends the innermost set. -/
def closeSet (set : OpenSet) : List OpenSet → SetState
  | [] => .done (set.total + 1)
  | outside :: outer => .within (outside.push (set.total + 1)) outer

/-- **What the next character does to the open sets**, and the text that is left then. -/
def setStep? (flags : Flags) (set : OpenSet) (outer : List OpenSet) (c : Char)
    (cs : List Char) : Option (SetState × List Char) :=
  if set.isPlain c then
    if Pattern.isAllowedInSet flags c then
      some (.within { set.push 0 with isFresh := c == '-' } outer, cs)
    else none
  else if c = '[' then
    match className? cs with
    | some (negated, rest) =>
        if isAllowedClass flags negated then some (.within (set.push 0) outer, rest) else none
    | none => (opened? flags cs).map fun rest => (.within {} (set :: outer), rest)
  else if c = ']' then some (closeSet set outer, cs)
  else if ['&', '-', '~'].contains c && cs.head? == some c then
    some (.within set.operator outer, cs.drop 1)
  else (item? flags c cs).map fun rest => (.within (set.push 0) outer, rest)

/-! ### Progress -/

theorem length_le_of_afterClassName? {cs rest : List Char}
    (h : afterClassName? cs = some rest) : rest.length ≤ cs.length := by
  have hle := (List.dropWhile_suffix (l := cs) (· != ':')).length_le
  rw [afterClassName?] at h
  split at h
  · next tail heq =>
      rw [heq, List.length_cons, List.length_cons] at hle
      split at h
      · cases h
        omega
      · cases h
  · cases h

theorem length_le_of_className? {negated : Bool} {cs rest : List Char}
    (h : className? cs = some (negated, rest)) : rest.length ≤ cs.length := by
  rw [className?.eq_def] at h
  split at h
  · obtain ⟨tail, htail, h⟩ := Option.map_eq_some_iff.1 h
    cases h
    have := length_le_of_afterClassName? htail
    simp only [List.length_cons]
    omega
  · obtain ⟨tail, htail, h⟩ := Option.map_eq_some_iff.1 h
    cases h
    exact Nat.le_succ_of_le (length_le_of_afterClassName? htail)
  · cases h

theorem length_le_of_member? {flags : Flags} {c : Char} {atom : Atom} {cs rest : List Char}
    (h : member? flags c cs = some (atom, rest)) : rest.length ≤ cs.length := by
  rw [member?] at h
  split at h
  · exact length_le_of_escape? h
  · cases h
    exact Nat.le_refl _

theorem length_le_of_rangeEnd? {flags : Flags} {first : Atom} {cs rest : List Char}
    (h : rangeEnd? flags first cs = some rest) : rest.length ≤ cs.length := by
  have hle := length_skip_le flags cs
  rw [rangeEnd?.eq_def] at h
  split at h
  · cases h
  · next c tail heq =>
      rw [heq, List.length_cons] at hle
      obtain ⟨⟨last, tail'⟩, hmember, h⟩ := Option.bind_eq_some_iff.1 h
      have := length_le_of_member? hmember
      simp only at h
      split at h
      · cases h
        omega
      · cases h

theorem length_le_of_item? {flags : Flags} {c : Char} {cs rest : List Char}
    (h : item? flags c cs = some rest) : rest.length ≤ cs.length := by
  obtain ⟨⟨first, tail⟩, hmember, h⟩ := Option.bind_eq_some_iff.1 h
  have htail := length_le_of_member? hmember
  have hle := length_skip_le flags tail
  have hsingle : ∀ {found}, (if first.isAllowedInSet flags then some (skip flags tail) else none)
      = some found → found.length ≤ cs.length := by
    intro found hfound
    split at hfound
    · cases hfound
      omega
    · cases hfound
  simp only at h
  split at h
  · next tail' heq =>
      rw [heq, List.length_cons] at hle
      split at h
      · exact hsingle (heq ▸ h)
      · have := length_le_of_rangeEnd? h
        omega
  · exact hsingle h

theorem length_le_of_opened? {flags : Flags} {cs rest : List Char}
    (h : opened? flags cs = some rest) : rest.length ≤ cs.length := by
  have hle := length_skip_le flags cs
  rw [opened?.eq_def] at h
  split at h
  · next tail hskip =>
      rw [hskip, List.length_cons] at hle
      split at h
      · cases h
        omega
      · cases h
  · cases h
    exact hle

/-- A step leaves a part of the text. -/
theorem length_le_of_setStep? {flags : Flags} {set : OpenSet} {outer : List OpenSet} {c : Char}
    {cs rest : List Char} {state : SetState}
    (h : setStep? flags set outer c cs = some (state, rest)) : rest.length ≤ cs.length := by
  rw [setStep?.eq_def] at h
  split at h
  · split at h
    · cases h
      exact Nat.le_refl _
    · cases h
  · split at h
    · split at h
      · next hclass =>
          split at h
          · cases h
            exact length_le_of_className? hclass
          · cases h
      · obtain ⟨tail, htail, h⟩ := Option.map_eq_some_iff.1 h
        cases h
        exact length_le_of_opened? htail
    · split at h
      · cases h
        exact Nat.le_refl _
      · split at h
        · cases h
          exact (List.drop_sublist 1 cs).length_le
        · obtain ⟨tail, htail, h⟩ := Option.map_eq_some_iff.1 h
          cases h
          exact length_le_of_item? htail

/-! ### Whole sets -/

/-- The depth of the outermost of the open sets, and the text after its end. -/
def scanSet (flags : Flags) (set : OpenSet) (outer : List OpenSet) (cs : List Char) :
    Option (Nat × List Char) :=
  match _hskip : skip flags cs with
  | [] => none
  | c :: tail =>
      match _hstep : setStep? flags set outer c tail with
      | none => none
      | some (.done depth, rest) => some (depth, rest)
      | some (.within set outer, rest) => scanSet flags set outer rest
termination_by cs.length
decreasing_by
  have hle := length_skip_le flags cs
  have := length_le_of_setStep? _hstep
  rw [_hskip, List.length_cons] at hle
  omega

/-- **The depth of the set behind an opening bracket**, and the text after its end. -/
def set? (flags : Flags) (cs : List Char) : Option (Nat × List Char) := do
  scanSet flags {} [] (← opened? flags cs)

theorem length_le_of_scanSet {flags : Flags} {set : OpenSet} {outer : List OpenSet} {depth : Nat}
    {cs rest : List Char} (h : scanSet flags set outer cs = some (depth, rest)) :
    rest.length ≤ cs.length := by
  fun_induction scanSet flags set outer cs with
  | case1 => cases h
  | case2 => cases h
  | case3 _ _ cs c tail hskip found left hstep =>
      cases h
      have hle := length_skip_le flags cs
      have := length_le_of_setStep? hstep
      rw [hskip, List.length_cons] at hle
      omega
  | case4 _ _ cs c tail hskip _ _ left hstep ih =>
      have hle := length_skip_le flags cs
      have := length_le_of_setStep? hstep
      rw [hskip, List.length_cons] at hle
      have := ih h
      omega

/-- **A set leaves a part of the text.** -/
theorem length_le_of_set? {flags : Flags} {depth : Nat} {cs rest : List Char}
    (h : set? flags cs = some (depth, rest)) : rest.length ≤ cs.length := by
  obtain ⟨tail, htail, h⟩ := Option.bind_eq_some_iff.1 h
  exact Nat.le_trans (length_le_of_scanSet h) (length_le_of_opened? htail)

end Pattern

end Tabular

/-
**Which texts are patterns.**

A pattern is a sequence of atoms, sets and groups.  Each of them may be repeated, and bars divide a
sequence into branches.  A group stands in round brackets; it may have a name, which no other group
has, or flags, which hold for it alone.  Flags without a group hold for the rest of the group they
stand in, the branches that follow included.

There are no counted repetitions, so a bare opening brace is an error.

A pattern is refused when it is too deep.  Atoms have no depth, and sets, groups and repetitions are
one deeper than what they hold, as is a sequence of several parts and a choice of several branches.

Main definitions:

* `Tabular.Pattern.OpenGroup` — a group of which the end has not been reached;
* `Tabular.Pattern.step?` — what the next character of a pattern does;
* `Tabular.Pattern.isPattern` — **whether a text is a pattern**.
-/

import Tabular.Pattern.Set

set_option autoImplicit false

namespace Tabular

namespace Pattern

/-! ### Open groups -/

/-- A group of which the end has not been reached.  The whole pattern counts as one. -/
structure OpenGroup where
  /-- The flags at this place. -/
  flags : Flags := {}
  /-- The depth of the deepest branch that has ended. -/
  ended : Option Nat := none
  /-- The number of parts of the branch. -/
  count : Nat := 0
  /-- The depth of the deepest of them. -/
  depth : Nat := 0
  /-- The depth of the last part, if it can be repeated. -/
  last : Option Nat := none
  deriving DecidableEq, Repr

namespace OpenGroup

/-- Adds a part of some depth. -/
def push (group : OpenGroup) (depth : Nat) : OpenGroup :=
  { group with count := group.count + 1, depth := max group.depth depth, last := some depth }

/-- Sets the flags for the rest of the group. -/
def setFlags (group : OpenGroup) (flags : Flags) : OpenGroup :=
  { group with flags, count := group.count + 1, last := none }

/-- Repeats the last part. -/
def repeat? (group : OpenGroup) : Option OpenGroup :=
  group.last.map fun depth =>
    { group with depth := max group.depth (depth + 1), last := some (depth + 1) }

/-- The depth of the branch. -/
def branchDepth (group : OpenGroup) : Nat :=
  if group.count < 2 then group.depth else group.depth + 1

/-- Ends the branch. -/
def bar (group : OpenGroup) : OpenGroup :=
  { flags := group.flags, ended := some (max (group.ended.getD 0) group.branchDepth) }

/-- The depth of the branches. -/
def total (group : OpenGroup) : Nat :=
  match group.ended with
  | none => group.branchDepth
  | some ended => max ended group.branchDepth + 1

end OpenGroup

/-! ### The beginnings of groups -/

/-- What stands behind an opening round bracket. -/
inductive Opening
  /-- A group with its flags, and with its name if it has one. -/
  | group (flags : Flags) (name : Option (List Char))
  /-- Flags for the rest of the group. -/
  | settings (flags : Flags)
  deriving DecidableEq, Repr

/-- Whether characters are the name of a group. -/
def isName : List Char → Bool
  | [] => false
  | c :: cs =>
      (c == '_' || isAlphabetic c)
        && cs.all fun c => ['_', '.', '[', ']'].contains c || isAlphanumeric c

/-- A named group, and the text after the name. -/
def named? (flags : Flags) (cs : List Char) : Option (Opening × List Char) :=
  match cs.dropWhile (· != '>') with
  | [] => none
  | _ :: rest =>
      let name := cs.takeWhile (· != '>')
      if isName name then some (.group flags (some name), rest) else none

/-- Flags with or without a group, and the text after them. -/
def flagged? (flags : Flags) (cs : List Char) : Option (Opening × List Char) := do
  let word := cs.takeWhile fun c => c != ':' && c != ')'
  match cs.dropWhile fun c => c != ':' && c != ')' with
  | [] => none
  | ':' :: rest => return (.group (← flags.setAll? word) none, rest)
  | _ :: rest => if word.isEmpty then none else return (.settings (← flags.setAll? word), rest)

/-- What stands behind an opening round bracket, and the text after it. -/
def opening? (flags : Flags) (cs : List Char) : Option (Opening × List Char) :=
  match skip flags cs with
  | '?' :: 'P' :: '<' :: rest => named? flags rest
  | '?' :: '<' :: rest => named? flags rest
  | '?' :: rest => flagged? flags rest
  | rest => some (.group flags none, rest)

/-! ### Steps -/

/-- What is known at a place of a pattern. -/
structure State where
  group : OpenGroup := {}
  outer : List OpenGroup := []
  names : List (List Char) := []
  deriving DecidableEq, Repr

namespace State

/-- Adds an atom, if it can be used. -/
def push? (state : State) (atom : Atom) : Option State :=
  if atom.isAllowed state.group.flags then some { state with group := state.group.push 0 }
  else none

/-- Begins a group, or sets flags. -/
def open? (state : State) : Opening → Option State
  | .settings flags => some { state with group := state.group.setFlags flags }
  | .group flags none => some { state with group := { flags }, outer := state.group :: state.outer }
  | .group flags (some name) =>
      if state.names.contains name then none
      else some {
        group := { flags }
        outer := state.group :: state.outer
        names := name :: state.names }

/-- Ends the innermost group. -/
def close? (state : State) : Option State :=
  match state.outer with
  | [] => none
  | outside :: outer =>
      some { state with group := outside.push (state.group.total + 1), outer }

end State

/-- **What the next character of a pattern does**, and the text that is left then. -/
def step? (state : State) (c : Char) (cs : List Char) : Option (State × List Char) :=
  let flags := state.group.flags
  match c with
  | '(' => do
      let (opening, rest) ← opening? flags cs
      return (← state.open? opening, rest)
  | ')' => do return (← state.close?, cs)
  | '|' => some ({ state with group := state.group.bar }, cs)
  | '[' => do
      let (depth, rest) ← set? flags cs
      return ({ state with group := state.group.push depth }, rest)
  | '{' => none
  | '\\' => do
      let (atom, rest) ← escape? flags cs
      return (← state.push? atom, rest)
  | '.' => do return (← state.push? .any, cs)
  | '^' => do return (← state.push? .edge, cs)
  | '$' => do return (← state.push? .edge, cs)
  | c =>
      if ['?', '*', '+'].contains c then do
        let group ← state.group.repeat?
        return ({ state with group }, if cs.head? == some '?' then cs.drop 1 else cs)
      else do return (← state.push? (.char c), cs)

/-! ### Progress -/

theorem length_le_of_named? {flags : Flags} {opening : Opening} {cs rest : List Char}
    (h : named? flags cs = some (opening, rest)) : rest.length ≤ cs.length := by
  have hle := (List.dropWhile_suffix (l := cs) (· != '>')).length_le
  rw [named?] at h
  split at h
  · cases h
  · next c tail heq =>
      rw [heq, List.length_cons] at hle
      simp only at h
      split at h
      · cases h
        omega
      · cases h

theorem length_le_of_flagged? {flags : Flags} {opening : Opening} {cs rest : List Char}
    (h : flagged? flags cs = some (opening, rest)) : rest.length ≤ cs.length := by
  have hle := (List.dropWhile_suffix (l := cs) fun c => c != ':' && c != ')').length_le
  rw [flagged?] at h
  split at h
  · cases h
  · next tail heq =>
      rw [heq, List.length_cons] at hle
      obtain ⟨_, -, h⟩ := Option.bind_eq_some_iff.1 h
      cases h
      omega
  · next c tail _ heq =>
      rw [heq, List.length_cons] at hle
      split at h
      · cases h
      · obtain ⟨_, -, h⟩ := Option.bind_eq_some_iff.1 h
        cases h
        omega

theorem length_le_of_opening? {flags : Flags} {opening : Opening} {cs rest : List Char}
    (h : opening? flags cs = some (opening, rest)) : rest.length ≤ cs.length := by
  have hle := length_skip_le flags cs
  rw [opening?.eq_def] at h
  split at h
  · next heq =>
      have := length_le_of_named? h
      simp only [heq, List.length_cons] at hle
      omega
  · next heq =>
      have := length_le_of_named? h
      simp only [heq, List.length_cons] at hle
      omega
  · next heq =>
      have := length_le_of_flagged? h
      simp only [heq, List.length_cons] at hle
      omega
  · cases h
    exact hle

/-- A step leaves a part of the text. -/
theorem length_le_of_step? {state next : State} {c : Char} {cs rest : List Char}
    (h : step? state c cs = some (next, rest)) : rest.length ≤ cs.length := by
  rw [step?.eq_def] at h
  simp only at h
  split at h
  · obtain ⟨⟨opening, tail⟩, hopening, h⟩ := Option.bind_eq_some_iff.1 h
    obtain ⟨_, -, h⟩ := Option.bind_eq_some_iff.1 h
    cases h
    exact length_le_of_opening? hopening
  · obtain ⟨_, -, h⟩ := Option.bind_eq_some_iff.1 h
    cases h
    exact Nat.le_refl _
  · cases h
    exact Nat.le_refl _
  · obtain ⟨⟨depth, tail⟩, hset, h⟩ := Option.bind_eq_some_iff.1 h
    cases h
    exact length_le_of_set? hset
  · cases h
  · obtain ⟨⟨atom, tail⟩, hescape, h⟩ := Option.bind_eq_some_iff.1 h
    obtain ⟨_, -, h⟩ := Option.bind_eq_some_iff.1 h
    cases h
    exact length_le_of_escape? hescape
  · obtain ⟨_, -, h⟩ := Option.bind_eq_some_iff.1 h
    cases h
    exact Nat.le_refl _
  · obtain ⟨_, -, h⟩ := Option.bind_eq_some_iff.1 h
    cases h
    exact Nat.le_refl _
  · obtain ⟨_, -, h⟩ := Option.bind_eq_some_iff.1 h
    cases h
    exact Nat.le_refl _
  · split at h
    · obtain ⟨_, -, h⟩ := Option.bind_eq_some_iff.1 h
      cases h
      split
      · exact (List.drop_sublist 1 cs).length_le
      · exact Nat.le_refl _
    · obtain ⟨_, -, h⟩ := Option.bind_eq_some_iff.1 h
      cases h
      exact Nat.le_refl _

/-! ### Whole patterns -/

/-- The greatest depth of a pattern. -/
def maxDepth : Nat := 250

/-- Whether a text goes on and ends as a pattern. -/
def scan (state : State) (cs : List Char) : Bool :=
  match _hskip : skip state.group.flags cs with
  | [] => state.outer.isEmpty && state.group.total ≤ maxDepth
  | c :: tail =>
      match _hstep : step? state c tail with
      | none => false
      | some (next, rest) => scan next rest
termination_by cs.length
decreasing_by
  have hle := length_skip_le state.group.flags cs
  have := length_le_of_step? _hstep
  rw [_hskip, List.length_cons] at hle
  omega

/-- **Whether a text is a pattern.** -/
def isPattern (cs : List Char) : Bool := scan {} cs

end Pattern

end Tabular

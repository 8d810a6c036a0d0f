/-
**Sorting arguments one after another.**

An argument is judged by the positional arguments before it and by the option that waits for a
value.  What it does to the sorted arguments is said once, as a relation with a case for each kind
of argument; only the two hyphens that end the options do not go on to the next one.  So a command
line can be cut behind any argument that leaves no option waiting, and an option that is found stays
to the end.

Main definitions:

* `Tabular.CommandLine.Tool.Takes` — **what one argument does to the sorted ones**.

Main results:

* `Tabular.CommandLine.Tool.classify_long`, `Tabular.CommandLine.Tool.classify_short` — arguments
  with two hyphens and with one;
* `Tabular.CommandLine.Tool.gather_cons_eq_some` — the ways in which an argument is sorted;
* `Tabular.CommandLine.Tool.gather_append` — **arguments are sorted one after another**;
* `Tabular.CommandLine.Tool.value?_of_gather` — an option that is there stays.
-/

import Mathlib.Data.List.Basic
import Tabular.CommandLine.Arguments

set_option autoImplicit false

namespace Tabular

namespace CommandLine

/-! ### One argument -/

namespace Tool

theorem classify_long (tool : Tool) (taken : Nat) {arg : String} {cs : List Char}
    (h : arg.toList = '-' :: '-' :: cs) (hne : cs ≠ []) :
    tool.classify taken arg = tool.longSetting? cs := by
  obtain ⟨c, cs, rfl⟩ := List.exists_cons_of_ne_nil hne
  unfold classify
  rw [h]
  rfl

/-- An argument with one hyphen that cannot be taken for a number. -/
theorem classify_short (tool : Tool) (taken : Nat) {arg : String} {c : Char} {cs : List Char}
    (h : arg.toList = '-' :: c :: cs) (hc : c ≠ '-')
    (hnumber : Number.isNumeric (c :: cs) = false) :
    tool.classify taken arg = tool.shortSetting? c cs := by
  unfold classify
  rw [h]
  split
  · next hlist =>
      cases hlist
      exact absurd rfl hc
  · next hlist =>
      cases hlist
      exact absurd rfl hc
  · next hlist =>
      cases hlist
      simp [hnumber]
  · next hother => exact absurd rfl (hother c cs)

end Tool

/-! ### One argument after another -/

namespace Tool

/-- **What one argument does to the sorted ones**, unless it ends the options: which option waits
for its value, and what is sorted, before and after it. -/
inductive Takes (tool : Tool) (sorted : Arguments) (arg : String) :
    Option Setting → Option Setting → Arguments → Prop
  | positional {value : String} :
      tool.classify sorted.positionals.length arg = some (.plain value) →
        Takes tool sorted arg none none (sorted.push [value])
  /-- The value of the option before it. -/
  | value {setting : Setting} {value : String} {next : Arguments} :
      tool.classify sorted.positionals.length arg = some (.plain value) →
        sorted.set? setting value = some next → Takes tool sorted arg (some setting) none next
  | joined {setting : Setting} {value : String} {next : Arguments} :
      tool.classify sorted.positionals.length arg = some (.setting setting (some value)) →
        sorted.set? setting value = some next → Takes tool sorted arg none none next
  /-- An option whose value is the next argument. -/
  | opening {setting : Setting} :
      tool.classify sorted.positionals.length arg = some (.setting setting none) →
        setting.hasValue = true → Takes tool sorted arg none (some setting) sorted
  /-- An option that has no value. -/
  | switch {setting : Setting} {next : Arguments} :
      tool.classify sorted.positionals.length arg = some (.setting setting none) →
        setting.hasValue = false → sorted.set? setting "" = some next →
        Takes tool sorted arg none none next

variable {tool : Tool} {sorted next result : Arguments} {arg : String}
  {pending waiting : Option Setting} {args : List String}

theorem gather_of_takes (h : tool.Takes sorted arg pending waiting next) (args : List String) :
    tool.gather pending sorted (arg :: args) = tool.gather waiting next args := by
  cases h with
  | positional h => simp only [gather, h]
  | value h hset => simp only [gather, h, hset]; rfl
  | joined h hset => simp only [gather, h, hset]; rfl
  | opening h hvalue => simp only [gather, h, hvalue, if_true]
  | switch h hvalue hset => simp only [gather, h, hvalue, hset, Bool.false_eq_true, if_false]; rfl

theorem classify_ne_none_of_takes (h : tool.Takes sorted arg pending waiting next) :
    tool.classify sorted.positionals.length arg ≠ none := by
  cases h <;> simp [*]

/-- No option may wait for its value at the end. -/
theorem gather_nil_eq_some (h : tool.gather pending sorted [] = some result) :
    pending = none ∧ result = sorted := by
  cases pending with
  | none =>
      cases h
      exact ⟨rfl, rfl⟩
  | some setting => cases h

/-- **The ways in which an argument is sorted.** -/
theorem gather_cons_eq_some (h : tool.gather pending sorted (arg :: args) = some result) :
    (∃ waiting next, tool.Takes sorted arg pending waiting next ∧
        tool.gather waiting next args = some result) ∨
      tool.classify sorted.positionals.length arg = some .endOfSettings ∧ pending = none ∧
        result = sorted.push args := by
  cases hword : tool.classify sorted.positionals.length arg with
  | none => simp [gather, hword] at h
  | some word =>
      cases pending with
      | some setting =>
          cases word with
          | plain value =>
              simp only [gather, hword] at h
              obtain ⟨next, hset, h⟩ := Option.bind_eq_some_iff.1 h
              exact Or.inl ⟨none, next, .value hword hset, h⟩
          | setting => simp [gather, hword] at h
          | endOfSettings => simp [gather, hword] at h
      | none =>
          cases word with
          | plain value =>
              simp only [gather, hword] at h
              exact Or.inl ⟨none, _, .positional hword, h⟩
          | setting setting value =>
              cases value with
              | some value =>
                  simp only [gather, hword] at h
                  obtain ⟨next, hset, h⟩ := Option.bind_eq_some_iff.1 h
                  exact Or.inl ⟨none, next, .joined hword hset, h⟩
              | none =>
                  simp only [gather, hword] at h
                  split at h
                  · next hvalue => exact Or.inl ⟨some setting, sorted, .opening hword hvalue, h⟩
                  · next hvalue =>
                      obtain ⟨next, hset, h⟩ := Option.bind_eq_some_iff.1 h
                      exact Or.inl
                        ⟨none, next, .switch hword (Bool.eq_false_iff.2 hvalue) hset, h⟩
          | endOfSettings =>
              simp only [gather, hword, Option.some.injEq] at h
              exact Or.inr ⟨rfl, rfl, h.symm⟩

/-- Only two hyphens end the options. -/
theorem eq_of_classify_eq_endOfSettings {taken : Nat}
    (h : tool.classify taken arg = some .endOfSettings) : arg = "--" := by
  rw [classify] at h
  split at h
  · next hlist =>
      rw [← String.ofList_toList (s := arg), hlist]
  · next cs _ =>
      rw [longSetting?] at h
      obtain ⟨setting, -, h⟩ := Option.bind_eq_some_iff.1 h
      split at h
      · cases h
      · split at h <;> cases h
  · next c cs _ _ =>
      split at h
      · cases h
      · rw [shortSetting?] at h
        obtain ⟨setting, -, h⟩ := Option.bind_eq_some_iff.1 h
        split at h <;> cases h
  · cases h

/-- **Arguments are sorted one after another**, as long as the options are not ended. -/
theorem gather_append (h : tool.gather pending sorted args = some result) (hend : "--" ∉ args)
    (more : List String) :
    tool.gather pending sorted (args ++ more) = tool.gather none result more := by
  induction args generalizing pending sorted with
  | nil =>
      obtain ⟨rfl, rfl⟩ := gather_nil_eq_some h
      rfl
  | cons arg args ih =>
      obtain ⟨harg, hargs⟩ := List.ne_and_not_mem_of_not_mem_cons hend
      rcases gather_cons_eq_some h with ⟨waiting, next, htakes, hrest⟩ | ⟨hclass, -, -⟩
      · rw [List.cons_append, gather_of_takes htakes, ih hrest hargs]
      · exact absurd (eq_of_classify_eq_endOfSettings hclass).symm harg

end Tool

/-! ### Options that are there -/

namespace Arguments

variable {sorted next : Arguments} {setting : Setting} {value : String}

theorem set?_eq_some_iff : sorted.set? setting value = some next ↔
    sorted.value? setting = none ∧
      { sorted with settings := (setting, value) :: sorted.settings } = next := by
  rw [set?]
  cases sorted.value? setting <;> simp

theorem value?_of_set? (h : sorted.set? setting value = some next) (other : Setting) :
    next.value? other = if other = setting then some value else sorted.value? other := by
  obtain ⟨-, rfl⟩ := set?_eq_some_iff.1 h
  rw [value?, List.lookup_cons]
  by_cases hother : other = setting
  · simp [hother]
  · rw [beq_false_of_ne hother, if_neg hother]
    rfl

end Arguments

namespace Tool

variable {tool : Tool} {sorted next result : Arguments} {arg : String}
  {pending waiting : Option Setting} {args : List String} {setting : Setting} {value : String}

/-- An option that is there stays, for none may be given twice. -/
theorem value?_of_takes (h : tool.Takes sorted arg pending waiting next)
    (hvalue : sorted.value? setting = some value) : next.value? setting = some value := by
  have hset {other : Setting} {text : String} (hset : sorted.set? other text = some next) :
      next.value? setting = some value := by
    have hne : setting ≠ other := by
      rintro rfl
      rw [(Arguments.set?_eq_some_iff.1 hset).1] at hvalue
      cases hvalue
    rw [Arguments.value?_of_set? hset, if_neg hne, hvalue]
  cases h with
  | positional => exact hvalue
  | value _ h => exact hset h
  | joined _ h => exact hset h
  | opening => exact hvalue
  | switch _ _ h => exact hset h

theorem value?_of_gather (h : tool.gather pending sorted args = some result)
    (hvalue : sorted.value? setting = some value) : result.value? setting = some value := by
  induction args generalizing pending sorted with
  | nil =>
      obtain ⟨rfl, rfl⟩ := gather_nil_eq_some h
      exact hvalue
  | cons arg args ih =>
      rcases gather_cons_eq_some h with ⟨waiting, next, htakes, hrest⟩ | ⟨-, -, rfl⟩
      · exact ih hrest (value?_of_takes htakes hvalue)
      · exact hvalue

/-- An option that is not there at the end was never there. -/
theorem value?_eq_none_of_gather (h : tool.gather pending sorted args = some result)
    (hresult : result.value? setting = none) : sorted.value? setting = none := by
  cases hvalue : sorted.value? setting with
  | none => rfl
  | some value =>
      rw [value?_of_gather h hvalue] at hresult
      cases hresult

end Tool

end CommandLine

end Tabular

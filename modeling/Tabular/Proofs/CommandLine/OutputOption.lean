/-
**A command line with an output.**

The option that names the output may be added to a command line that has none, and the job that the
command line asks for stays the same but for its output.  The option can stand almost anywhere: only
behind the two hyphens that end the options, or between another option and its value, it would be
taken for something else.  This is so because an argument is judged by the positional arguments
before it and by the option that waits for a value, and the new option leaves none waiting.

Main definitions:

* `Tabular.CommandLine.Arguments.WithOutput` — sorted arguments that differ by the output;
* `Tabular.CommandLine.NamesOutput` — **the ways to write the option**.

Main results:

* `Tabular.CommandLine.Tool.gather_withOutput` — other arguments are sorted alike with and without
  the output;
* `Tabular.CommandLine.Arguments.WithOutput.toJob_eq` — and ask for the same job but for the output;
* `Tabular.CommandLine.Tool.gather_option_append` — the option is found however it is written;
* `Tabular.CommandLine.Tool.parse_insert` — **a command line with the option added asks for the same
  job with the output added**.
-/

import Tabular.CommandLine.Command
import Tabular.Proofs.CommandLine.Sorting

set_option autoImplicit false

namespace Tabular

namespace CommandLine

/-! ### Arguments that differ by the output -/

/-- **Sorted arguments that differ by the output**: it is named in the second ones only. -/
structure Arguments.WithOutput (path : String) (sorted other : Arguments) : Prop where
  positionals_eq : other.positionals = sorted.positionals
  output_eq_none : sorted.value? .output = none
  output_eq : other.value? .output = some path
  value?_eq : ∀ setting, setting ≠ .output → other.value? setting = sorted.value? setting

namespace Arguments.WithOutput

variable {path : String} {sorted other : Arguments}

theorem of_set? (h : sorted.set? .output path = some other) : WithOutput path sorted other := by
  refine ⟨?_, (set?_eq_some_iff.1 h).1, by rw [value?_of_set? h, if_pos rfl], ?_⟩
  · obtain ⟨-, rfl⟩ := set?_eq_some_iff.1 h
    rfl
  · intro setting hne
    rw [value?_of_set? h, if_neg hne]

theorem push (h : WithOutput path sorted other) (values : List String) :
    WithOutput path (sorted.push values) (other.push values) :=
  ⟨congrArg (· ++ values) h.positionals_eq, h.output_eq_none, h.output_eq, h.value?_eq⟩

theorem set? (h : WithOutput path sorted other) {setting : Setting} {value : String}
    {next : Arguments} (hset : sorted.set? setting value = some next)
    (hnext : next.value? .output = none) :
    ∃ added, other.set? setting value = some added ∧ WithOutput path next added := by
  have hne : setting ≠ .output := by
    rintro rfl
    rw [value?_of_set? hset, if_pos rfl] at hnext
    cases hnext
  obtain ⟨hnone, rfl⟩ := set?_eq_some_iff.1 hset
  have hadded : other.set? setting value
      = some { other with settings := (setting, value) :: other.settings } :=
    set?_eq_some_iff.2 ⟨(h.value?_eq setting hne).trans hnone, rfl⟩
  refine ⟨_, hadded, h.positionals_eq, hnext, ?_, ?_⟩
  · rw [value?_of_set? hadded, if_neg hne.symm, h.output_eq]
  · intro other hother
    rw [value?_of_set? hadded, value?_of_set? hset, h.value?_eq other hother]

end Arguments.WithOutput

namespace Tool

variable {tool : Tool} {path : String} {sorted other next result : Arguments} {arg : String}
  {pending waiting : Option Setting} {args : List String}

/-- An argument does the same to both. -/
theorem takes_withOutput (h : tool.Takes sorted arg pending waiting next)
    (hother : sorted.WithOutput path other) (hnext : next.value? .output = none) :
    ∃ added, tool.Takes other arg pending waiting added ∧ next.WithOutput path added := by
  have hclass (taken : Option Word) (h : tool.classify sorted.positionals.length arg = taken) :
      tool.classify other.positionals.length arg = taken := by
    rw [hother.positionals_eq, h]
  cases h with
  | positional h => exact ⟨_, .positional (hclass _ h), hother.push _⟩
  | value h hset =>
      obtain ⟨added, hadded, hwith⟩ := hother.set? hset hnext
      exact ⟨added, .value (hclass _ h) hadded, hwith⟩
  | joined h hset =>
      obtain ⟨added, hadded, hwith⟩ := hother.set? hset hnext
      exact ⟨added, .joined (hclass _ h) hadded, hwith⟩
  | opening h hvalue => exact ⟨other, .opening (hclass _ h) hvalue, hother⟩
  | switch h hvalue hset =>
      obtain ⟨added, hadded, hwith⟩ := hother.set? hset hnext
      exact ⟨added, .switch (hclass _ h) hvalue hadded, hwith⟩

/-- **And so do all arguments**, if they name no output themselves. -/
theorem gather_withOutput (h : tool.gather pending sorted args = some result)
    (hother : sorted.WithOutput path other) (hresult : result.value? .output = none) :
    ∃ added, tool.gather pending other args = some added ∧ result.WithOutput path added := by
  induction args generalizing pending sorted other with
  | nil =>
      obtain ⟨rfl, rfl⟩ := gather_nil_eq_some h
      exact ⟨other, rfl, hother⟩
  | cons arg args ih =>
      rcases gather_cons_eq_some h with ⟨waiting, next, htakes, hrest⟩ | ⟨hclass, rfl, rfl⟩
      · obtain ⟨added, hadded, hwith⟩ :=
          takes_withOutput htakes hother (value?_eq_none_of_gather hrest hresult)
        rw [gather_of_takes hadded]
        exact ih hrest hwith
      · refine ⟨other.push args, ?_, hother.push args⟩
        rw [← hother.positionals_eq] at hclass
        simp only [gather, hclass]

end Tool

/-! ### The job that is asked for -/

namespace Arguments

/-- A job without an output is asked for without the option. -/
theorem output_eq_none_of_jobOf {arguments : Arguments} {input : String} {task : Task} {job : Job}
    (h : arguments.jobOf input task = some job) (houtput : job.output = none) :
    arguments.value? .output = none := by
  rw [jobOf] at h
  obtain ⟨delimiter, -, h⟩ := Option.bind_eq_some_iff.1 h
  obtain ⟨path, -, h⟩ := Option.bind_eq_some_iff.1 h
  obtain ⟨output, hpath, h⟩ := Option.bind_eq_some_iff.1 h
  cases h
  cases houtput
  rw [path?] at hpath
  cases hvalue : arguments.value? .output with
  | none => rfl
  | some value =>
      rw [hvalue, Option.mapM_some] at hpath
      obtain ⟨_, -, hnone⟩ := Option.map_eq_some_iff.1 hpath
      cases hnone

theorem exists_jobOf_of_toJob {arguments : Arguments} {tool : Tool} {job : Job}
    (h : arguments.toJob tool = some job) :
    ∃ input task, arguments.jobOf input task = some job := by
  unfold toJob at h
  split at h
  · obtain ⟨columns, -, h⟩ := Option.bind_eq_some_iff.1 h
    obtain ⟨report, -, h⟩ := Option.bind_eq_some_iff.1 h
    exact ⟨_, _, h⟩
  · obtain ⟨columns, -, h⟩ := Option.bind_eq_some_iff.1 h
    exact ⟨_, _, h⟩
  · obtain ⟨inserter, -, h⟩ := Option.bind_eq_some_iff.1 h
    exact ⟨_, _, h⟩
  · obtain ⟨inserter, -, h⟩ := Option.bind_eq_some_iff.1 h
    exact ⟨_, _, h⟩
  · cases h

namespace WithOutput

variable {path : String} {sorted other : Arguments}

theorem jobOf_eq (h : WithOutput path sorted other) (hpath : path ≠ "") (input : String)
    (task : Task) :
    other.jobOf input task
      = (sorted.jobOf input task).map fun job => { job with output := some path } := by
  have hdelimiter : other.delimiter? = sorted.delimiter? := by
    rw [delimiter?, delimiter?, h.value?_eq .delimiter (by decide)]
  have hbefore : sorted.path? .output = some none := by
    rw [path?, h.output_eq_none]
    rfl
  have hafter : other.path? .output = some (some path) := by
    simp [path?, h.output_eq, parsePath, hpath]
  rw [jobOf, jobOf, hdelimiter, hbefore, hafter]
  cases sorted.delimiter? with
  | none => rfl
  | some delimiter => cases parsePath input <;> rfl

/-- **Both ask for the same job**, but for its output. -/
theorem toJob_eq (h : WithOutput path sorted other) (hpath : path ≠ "") (tool : Tool) :
    other.toJob tool
      = (sorted.toJob tool).map fun job => { job with output := some path } := by
  have hreport : other.path? .report = sorted.path? .report := by
    rw [path?, path?, h.value?_eq .report (by decide)]
  have hlabels : other.labels = sorted.labels := by
    rw [labels, labels, h.value?_eq .keyName (by decide), h.value?_eq .valueName (by decide)]
  have hinserter (target : String) (partition : Option String) :
      other.inserter? target partition = sorted.inserter? target partition := by
    rw [inserter?, inserter?, h.value?_eq .maxLength (by decide),
      h.value?_eq .noSurrogateKey (by decide)]
  unfold toJob
  rw [h.positionals_eq]
  split
  · simp only [hreport, h.jobOf_eq hpath, Option.bind_eq_bind, Option.map_bind, Function.comp_def]
  · simp only [hlabels, h.jobOf_eq hpath, Option.bind_eq_bind, Option.map_bind, Function.comp_def]
  · simp only [hinserter, h.jobOf_eq hpath, Option.bind_eq_bind, Option.map_bind, Function.comp_def]
  · simp only [hinserter, h.jobOf_eq hpath, Option.bind_eq_bind, Option.map_bind, Function.comp_def]
  · rfl

end WithOutput

end Arguments

/-! ### The option -/

/-- **The ways to write the option** for the output: the path is part of the argument, or it is the
next one, where it must not be taken for an option. -/
inductive NamesOutput (path : String) : List String → Prop
  | longJoined : NamesOutput path ["--output=" ++ path]
  | joined : NamesOutput path ["-o=" ++ path]
  | attached : path ≠ "" → path.toList.head? ≠ some '=' → NamesOutput path ["-o" ++ path]
  | long : path = "-" ∨ path.toList.head? ≠ some '-' → NamesOutput path ["--output", path]
  | apart : path = "-" ∨ path.toList.head? ≠ some '-' → NamesOutput path ["-o", path]

namespace Tool

variable (tool : Tool) (taken : Nat)

theorem find?_settings_output {p : Setting → Bool} (h : p .output = true) :
    tool.settings.find? p = some .output := by
  cases tool <;> exact List.find?_cons_of_pos h

theorem classify_path {path : String} (h : path = "-" ∨ path.toList.head? ≠ some '-') :
    tool.classify taken path = some (.plain path) := by
  rcases h with rfl | h
  · rfl
  · have hne (cs : List Char) : path.toList ≠ '-' :: cs := by
      intro hlist
      exact h (by rw [hlist, List.head?_cons])
    unfold classify
    split
    · next hlist => exact absurd hlist (hne _)
    · next hlist => exact absurd hlist (hne _)
    · next hlist => exact absurd hlist (hne _)
    · rfl

theorem longSetting?_output : tool.longSetting? "output".toList = some (.setting .output none) := by
  cases tool <;> rfl

theorem longSetting?_output_append (path : String) :
    tool.longSetting? ("output=".toList ++ path.toList) = some (.setting .output (some path)) := by
  have htake : ("output=".toList ++ path.toList).takeWhile (· != '=') = "output".toList := rfl
  have hdrop : ("output=".toList ++ path.toList).dropWhile (· != '=') = '=' :: path.toList := rfl
  rw [longSetting?, htake, hdrop, find?_settings_output tool (by decide)]
  simp [Setting.hasValue]

theorem shortSetting?_o : tool.shortSetting? 'o' [] = some (.setting .output none) := by
  cases tool <;> rfl

theorem shortSetting?_o_cons (c : Char) (cs : List Char) :
    tool.shortSetting? 'o' (c :: cs) = some (.setting .output
      (some (String.ofList (if c = '=' then cs else c :: cs)))) := by
  rw [shortSetting?, find?_settings_output tool (by decide)]
  by_cases hc : c = '='
  · rw [hc]
    rfl
  · simp [hc]

variable {tool} {path : String} {sorted next : Arguments}

/-- The option in one argument. -/
theorem gather_cons_output {arg : String}
    (harg : tool.classify sorted.positionals.length arg = some (.setting .output (some path)))
    (hset : sorted.set? .output path = some next) (args : List String) :
    tool.gather none sorted (arg :: args) = tool.gather none next args :=
  gather_of_takes (.joined harg hset) args

/-- The option in two arguments. -/
theorem gather_cons_cons_output {arg : String}
    (harg : tool.classify sorted.positionals.length arg = some (.setting .output none))
    (hpath : path = "-" ∨ path.toList.head? ≠ some '-')
    (hset : sorted.set? .output path = some next) (args : List String) :
    tool.gather none sorted (arg :: path :: args) = tool.gather none next args := by
  rw [gather_of_takes (.opening harg rfl),
    gather_of_takes (.value (tool.classify_path _ hpath) hset)]

/-- **However it is written, the option names the output.** -/
theorem gather_option_append {option : List String} (hoption : NamesOutput path option)
    (hset : sorted.set? .output path = some next) (args : List String) :
    tool.gather none sorted (option ++ args) = tool.gather none next args := by
  cases hoption with
  | longJoined =>
      have hlist : ("--output=" ++ path).toList
          = '-' :: '-' :: ("output=".toList ++ path.toList) := by
        rw [String.toList_append]
        rfl
      refine gather_cons_output ?_ hset args
      rw [tool.classify_long _ hlist (by simp), longSetting?_output_append]
  | joined =>
      have hlist : ("-o=" ++ path).toList = '-' :: 'o' :: '=' :: path.toList := by
        rw [String.toList_append]
        rfl
      refine gather_cons_output ?_ hset args
      rw [tool.classify_short _ hlist (by decide) rfl, shortSetting?_o_cons, if_pos rfl,
        String.ofList_toList]
  | attached hne hequals =>
      have hlist : ("-o" ++ path).toList = '-' :: 'o' :: path.toList := by
        rw [String.toList_append]
        rfl
      obtain ⟨c, cs, hpath⟩ := List.exists_cons_of_ne_nil (mt String.toList_eq_nil_iff.1 hne)
      have hc : c ≠ '=' := by
        rintro rfl
        exact hequals (by rw [hpath]; rfl)
      refine gather_cons_output ?_ hset args
      rw [tool.classify_short _ hlist (by decide) rfl, hpath, shortSetting?_o_cons, if_neg hc,
        ← hpath, String.ofList_toList]
  | long hpath =>
      have hlist : "--output".toList = '-' :: '-' :: "output".toList := rfl
      refine gather_cons_cons_output ?_ hpath hset args
      rw [tool.classify_long _ hlist (by decide), longSetting?_output]
  | apart hpath =>
      have hlist : "-o".toList = ['-', 'o'] := rfl
      refine gather_cons_cons_output ?_ hpath hset args
      rw [tool.classify_short _ hlist (by decide) rfl, shortSetting?_o]

/-- **A command line with the option added asks for the same job with the output added.**  The
option may stand behind any arguments that do not end the options and leave none waiting for its
value. -/
theorem parse_insert {before after option : List String} {job : Job}
    (hparse : tool.parse (before ++ after) = some job) (houtput : job.output = none)
    (hend : "--" ∉ before) (hbefore : (tool.gather none {} before).isSome)
    (hoption : NamesOutput path option) (hpath : path ≠ "") :
    tool.parse (before ++ option ++ after) = some { job with output := some path } := by
  obtain ⟨sorted, hsorted⟩ := Option.isSome_iff_exists.1 hbefore
  obtain ⟨result, hresult, hjob⟩ := Option.bind_eq_some_iff.1 hparse
  rw [gather_append hsorted hend] at hresult
  obtain ⟨input, task, hjobOf⟩ := Arguments.exists_jobOf_of_toJob hjob
  have hnone : result.value? .output = none := Arguments.output_eq_none_of_jobOf hjobOf houtput
  have hset : sorted.set? .output path
      = some { sorted with settings := (.output, path) :: sorted.settings } :=
    Arguments.set?_eq_some_iff.2 ⟨value?_eq_none_of_gather hresult hnone, rfl⟩
  obtain ⟨added, hadded, hwith⟩ :=
    gather_withOutput hresult (Arguments.WithOutput.of_set? hset) hnone
  rw [parse, List.append_assoc, gather_append hsorted hend, gather_option_append hoption hset,
    hadded]
  change added.toJob tool = _
  rw [hwith.toJob_eq hpath, hjob, Option.map_some]

end Tool

end CommandLine

end Tabular

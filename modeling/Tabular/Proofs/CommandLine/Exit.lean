/-
**How commands end.**

The exit code is 0 in two cases: a job was asked for and has succeeded, or help was asked for.  The
two exclude each other, for no tool has an option that a request for help could be taken for.  Such
a request is answered whatever stands behind it.

A job that has succeeded and written a file says so in one line, which comes last.  What this line
says is stated here for each task, with the number of rows of the output.

Main definitions:

* `Tabular.Task.ClosesWith` — **the line about a file that was written**.

Main results:

* `Tabular.Task.closesWith_closing` — the line has the number of rows that the output has;
* `Tabular.CommandLine.Tool.asksForHelp_iff` — where a request for help may stand;
* `Tabular.CommandLine.Tool.execute_append_of_asksForHelp` — **help is given whatever follows**;
* `Tabular.CommandLine.Tool.code_execute_eq_zero_iff` — **the exit code is 0 after help and after a
  job that succeeds**.
-/

import Mathlib.Data.List.TakeWhile
import Tabular.CommandLine.Exit
import Tabular.Proofs.CommandLine.Sorting

set_option autoImplicit false

namespace Tabular

/-! ### The closing line -/

/-- **The line about a file that was written** at a path, if the output has so many rows.  For a
projection it also tells how many columns were missing. -/
inductive Task.ClosesWith (table : Table) (rows : Nat) (path : String) : Task → String → Prop
  | select (columns : List Int) (report : Option String) :
      ClosesWith table rows path (.select columns report)
        ("Wrote " ++ toString rows ++ " rows to " ++ path ++ " ("
          ++ toString (Projected.ofTable table columns).missing.length
          ++ " missing columns skipped)")
  | melt (columns : List Int) (labels : Melt.Labels) :
      ClosesWith table rows path (.melt columns labels)
        ("Wrote " ++ toString rows ++ " rows to " ++ path)
  | insert (inserter : Sql.Inserter) :
      ClosesWith table rows path (.insert inserter)
        ("Wrote " ++ toString rows ++ " statements to " ++ path)

theorem Task.closesWith_closing {delimiter : UInt8} {table : Table} {task : Task}
    {product : Product} (h : (task.product delimiter table).2 = .ok product) (path : String) :
    task.ClosesWith table product.summary.rows path
      (CommandLine.closing task product.summary path) := by
  cases task with
  | select columns report =>
      cases h
      exact .select columns report
  | melt columns labels => exact .melt columns labels
  | insert inserter => exact .insert inserter

namespace CommandLine

/-! ### What a job leaves as a command -/

section ExitOf

variable {program : Program} {job : Job} {filter : Log.Filter} {outcome : Outcome}
  {summary : Summary}

/-- The exit code 0 is for jobs that succeed. -/
theorem exists_result_of_code_exitOf (h : (exitOf program job filter outcome).code = 0) :
    ∃ summary, outcome.result = .ok summary := by
  cases hresult : outcome.result with
  | error failure => simp [exitOf, exitCode, hresult] at h
  | ok summary => exact ⟨summary, rfl⟩

/-- Where a job has succeeded and written a file, the closing line stands behind the log. -/
theorem stderr_exitOf {path : String} (hresult : outcome.result = .ok summary)
    (houtput : job.output = some path) :
    (exitOf program job filter outcome).stderr
      = printLines (filter.lines program.placeOf outcome.log
          ++ [closing job.task summary path]) := by
  simp [exitOf, messages, hresult, houtput]

/-- Where a job has succeeded and printed its output, nothing stands behind the log. -/
theorem stderr_exitOf_of_output_eq_none (hresult : outcome.result = .ok summary)
    (houtput : job.output = none) :
    (exitOf program job filter outcome).stderr
      = printLines (filter.lines program.placeOf outcome.log) := by
  simp [exitOf, messages, hresult, houtput]

end ExitOf

/-! ### Requests for help -/

namespace Tool

variable {tool : Tool} {arg : String} {args : List String} {sorted result : Arguments}
  {pending : Option Setting}

/-- No tool has an option that a request for help could be taken for. -/
theorem classify_of_isHelp (h : isHelp arg = true) (taken : Nat) :
    tool.classify taken arg = none := by
  rw [isHelp] at h
  split at h
  · next cs hlist =>
      rw [tool.classify_short _ hlist (by decide) rfl]
      cases tool <;> rfl
  · rw [tool.classify_long _ (eq_of_beq h) (by decide)]
    cases tool <;> rfl

/-- Where arguments are sorted, none of them is a request for help, unless it stands behind the two
hyphens that end the options. -/
theorem isHelp_eq_false_of_gather (h : tool.gather pending sorted args = some result)
    (hend : "--" ∉ args) : ∀ arg ∈ args, isHelp arg = false := by
  induction args generalizing pending sorted with
  | nil => simp
  | cons first args ih =>
      obtain ⟨hfirst, hargs⟩ := List.ne_and_not_mem_of_not_mem_cons hend
      intro arg harg
      rcases gather_cons_eq_some h with ⟨waiting, next, htakes, hrest⟩ | ⟨hclass, -, -⟩
      · rcases List.mem_cons.1 harg with rfl | harg
        · rw [Bool.eq_false_iff]
          intro hhelp
          exact classify_ne_none_of_takes htakes (classify_of_isHelp hhelp _)
        · exact ih hrest hargs arg harg
      · exact absurd (eq_of_classify_eq_endOfSettings hclass).symm hfirst

/-- **Where a request for help may stand**: behind arguments that can be sorted, that leave no
option waiting for its value, and that are of the right form as far as they go. -/
theorem asksForHelp_iff : tool.asksForHelp args = true ↔
    ∃ before word after sorted, args = before ++ word :: after ∧ isHelp word = true ∧
      "--" ∉ before ∧ tool.gather none {} before = some sorted ∧
      tool.admits sorted.positionals = true ∧ sorted.readable = true := by
  simp only [asksForHelp, Bool.and_eq_true, List.any_eq_true, Option.any_eq_true,
    Bool.not_eq_true', List.contains_eq_mem, decide_eq_false_iff_not]
  constructor
  · rintro ⟨⟨⟨word, hmem, hword⟩, hend⟩, sorted, hsorted, hadmits, hreadable⟩
    have hne : args.dropWhile (fun arg => !isHelp arg) ≠ [] := by
      intro hnil
      have hall := List.dropWhile_eq_nil_iff.1 hnil word hmem
      simp [hword] at hall
    obtain ⟨first, after, hdrop⟩ := List.exists_cons_of_ne_nil hne
    have hfirst := List.head_dropWhile_not (fun arg => !isHelp arg) hne
    refine ⟨_, first, after, sorted, ?_, ?_, hend, hsorted, hadmits, hreadable⟩
    · rw [← hdrop, List.takeWhile_append_dropWhile]
    · simpa [hdrop] using hfirst
  · rintro ⟨before, word, after, sorted, rfl, hword, hend, hsorted, hadmits, hreadable⟩
    have hbefore : (before ++ word :: after).takeWhile (fun arg => !isHelp arg) = before := by
      rw [List.takeWhile_append_of_pos, List.takeWhile_cons_of_neg, List.append_nil]
      · simp [hword]
      · intro arg harg
        simp [isHelp_eq_false_of_gather hsorted hend arg harg]
    rw [hbefore]
    exact ⟨⟨⟨word, by simp, hword⟩, hend⟩, sorted, hsorted, hadmits, hreadable⟩

/-- Help is given behind a column, but not behind a word that is none or an option that waits. -/
example : asksForHelp .select ["t", "-3", "-hello", "--what"] = true ∧
    asksForHelp .select ["t", "x", "-h"] = false ∧
    asksForHelp .select ["t", "-o", "--help"] = false := by decide +kernel

/-- A request for help asks for no job. -/
theorem parse_of_asksForHelp (h : tool.asksForHelp args = true) : tool.parse args = none := by
  obtain ⟨before, word, after, sorted, rfl, hword, hend, hsorted, -⟩ := asksForHelp_iff.1 h
  rw [parse, gather_append hsorted hend]
  simp only [gather, classify_of_isHelp hword]
  rfl

/-- **Help is given whatever follows the request**, and that is all. -/
theorem execute_append_of_asksForHelp (h : tool.asksForHelp args = true) (program : Program)
    (setting : Option String) (more : List String) (fs : FileSystem) :
    tool.execute program setting (args ++ more) fs
      = ⟨0, printLines (program.help tool), [], fs⟩ := by
  have hmore : tool.asksForHelp (args ++ more) = true := by
    obtain ⟨before, word, after, sorted, rfl, hrest⟩ := asksForHelp_iff.1 h
    exact asksForHelp_iff.2 ⟨before, word, after ++ more, sorted, by simp, hrest⟩
  rw [execute, parse_of_asksForHelp hmore]
  simp only [explain, hmore, if_true]

/-- **The exit code is 0 after help and after a job that succeeds**, and in no other case. -/
theorem code_execute_eq_zero_iff {program : Program} {setting : Option String} {fs : FileSystem} :
    (tool.execute program setting args fs).code = 0 ↔
      tool.asksForHelp args = true ∨
        ∃ job summary, tool.parse args = some job ∧ (job.perform fs).result = .ok summary := by
  constructor
  · intro hcode
    rw [execute] at hcode
    cases hparse : tool.parse args with
    | none =>
        rw [hparse] at hcode
        by_cases hhelp : tool.asksForHelp args = true
        · exact Or.inl hhelp
        · simp [explain, hhelp, usageCode] at hcode
    | some job =>
        rw [hparse] at hcode
        obtain ⟨summary, hresult⟩ := exists_result_of_code_exitOf hcode
        exact Or.inr ⟨job, summary, rfl, hresult⟩
  · rintro (hhelp | ⟨job, summary, hparse, hresult⟩)
    · have hexecute := execute_append_of_asksForHelp hhelp program setting [] fs
      rw [List.append_nil] at hexecute
      rw [hexecute]
    · rw [execute, hparse]
      simp only [exitOf, hresult, exitCode]

end Tool

end CommandLine

end Tabular

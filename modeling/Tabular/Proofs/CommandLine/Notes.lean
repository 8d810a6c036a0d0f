/-
**What a command tells about missing columns.**

A projection notes the columns that rows lack, and a command tells about these notes in three ways:
as warnings on the standard error stream, as objects in the report, and as a number in the closing
line.  All three are made of the same list, but each in its own code.  The warnings are the only
events of a projection that are shown without a setting, so the lines in front of the closing one
are the notes in words; and the report can be decoded, so it holds the notes and nothing else.

Main definitions:

* `Tabular.MissingColumn.line` — the line for a note.

Main results:

* `Tabular.Log.Filter.lines_upTo` — a filter by level alone does not look at the places;
* `Tabular.Task.lines_select` — the lines about a projection are its notes;
* `Tabular.Job.notes_of_select` — what a job leaves that projects a table and reports on it;
* `Tabular.CommandLine.notes_of_execute` — **the log, the report and the closing line tell about the
  same missing columns**.
-/

import Tabular.Main
import Tabular.Proofs.CommandLine.Exit
import Tabular.Proofs.Job
import Tabular.Proofs.Projection.Stored
import Tabular.Proofs.Report.Decoder

set_option autoImplicit false

namespace Tabular

/-! ### Warnings -/

namespace Log.Filter

/-- What a filter by level shows does not depend on the places of the events. -/
theorem shows_upTo (level : Level) (place : String) (event : Event) :
    (upTo level).shows place event = decide (event.level.rank ≤ level.rank) := by
  have hconcerns : Directive.concerns { verbosity := level.rank } place event = true := by
    simp [Directive.concerns]
  have hdecisive : (upTo level).decisive? place event = some { verbosity := level.rank } := by
    simp [decisive?, upTo, hconcerns]
  rw [shows, hdecisive]

theorem lines_upTo (level : Level) (placeOf : Origin → String) (events : List Event) :
    (upTo level).lines placeOf events
      = (events.filter fun event => event.level.rank ≤ level.rank).map Event.line := by
  simp only [lines, shows_upTo]

end Log.Filter

/-- The line for a note: a warning. -/
def MissingColumn.line (note : MissingColumn) : String := " WARN " ++ note.text

/-- Of what is told about a projection the notes are shown. -/
theorem Task.lines_select (placeOf : Log.Origin → String) (delimiter : UInt8) (table : Table)
    (columns : List Int) (report : Option String) :
    Log.Filter.standard.lines placeOf
        ((Task.select columns report).product delimiter table).1
      = (Projected.ofTable table columns).missing.map MissingColumn.line := by
  have hdebug : ¬ Log.Level.rank .debug ≤ Log.Level.rank .warn := by decide
  rw [Log.Filter.standard, Log.Filter.lines_upTo, Task.product,
    List.filter_cons_of_neg (by simpa using hdebug), List.filter_eq_self.2 (by simp), List.map_map]
  rfl

/-! ### Jobs and commands -/

/-- **A projection that succeeds and reports**: the log, the report and the summary all hold the
notes on the table that was read. -/
theorem Job.notes_of_select {job : Job} {fs : FileSystem} {columns : List Int} {report : String}
    {summary : Summary} (placeOf : Log.Origin → String)
    (htask : job.task = .select columns (some report))
    (h : (job.perform fs).result = .ok summary) :
    ∃ table, job.HasInput fs table ∧
      summary = ⟨(table.filter (· ≠ [])).length, (Projected.ofTable table columns).missing⟩ ∧
      (job.perform fs).files.read report
        = .ok (reportBytes (Projected.ofTable table columns).missing) ∧
      Log.Filter.standard.lines placeOf (job.perform fs).log
        = (Projected.ofTable table columns).missing.map MissingColumn.line := by
  have hends := job.ends_perform fs
  generalize job.perform fs = outcome at h hends ⊢
  cases hends with
  | unprepared => cases h
  | outputRefused => cases h
  | reportRefused => cases h
  | unreported hprepare _ hreport =>
      -- this projection has a report
      obtain ⟨table, -, hproduct⟩ := hasInput_of_prepare hprepare
      rw [htask] at hproduct
      cases hproduct
      cases hreport
  | reported hprepare _ hreport hwrite =>
      cases h
      obtain ⟨table, hinput, hproduct, rfl⟩ := log_of_prepare hprepare
      rw [htask] at hproduct ⊢
      cases hproduct
      cases hreport
      refine ⟨table, hinput, ?_, (FileSystem.setTo_of_write hwrite).read_eq, ?_⟩
      · rw [Projected.ofTable, Projection.records_onTable, List.length_map]
      · rw [← Task.lines_select placeOf job.delimiter table columns (some report)]
        rfl

namespace CommandLine

/-- **The log, the report and the closing line tell about the same missing columns**: those of the
table that was read.  The report may stand in the place of the output, for it is written last. -/
theorem notes_of_execute {program : Program} {setting : Option String} {args : List String}
    {fs : FileSystem} {job : Job} {columns : List Int} {report path : String}
    (hparse : Tool.parse .select args = some job) (htask : job.task = .select columns (some report))
    (houtput : job.output = some path) (hsetting : Log.Filter.parse setting = Log.Filter.standard)
    (hcode : (Tool.execute .select program setting args fs).code = 0) :
    ∃ table bytes, job.HasInput fs table ∧
      (Tool.execute .select program setting args fs).files.read report = .ok bytes ∧
      Report.decode? bytes = some (Projected.ofTable table columns).missing ∧
      (Tool.execute .select program setting args fs).stderr
        = printLines ((Projected.ofTable table columns).missing.map MissingColumn.line ++
            ["Wrote " ++ toString (table.filter (· ≠ [])).length ++ " rows to " ++ path ++ " ("
              ++ toString (Projected.ofTable table columns).missing.length
              ++ " missing columns skipped)"]) := by
  have hexecute : Tool.execute .select program setting args fs
      = exitOf program job Log.Filter.standard (job.perform fs) := by
    rw [Tool.execute, hparse, hsetting]
  rw [hexecute] at hcode ⊢
  obtain ⟨summary, hresult⟩ := exists_result_of_code_exitOf hcode
  obtain ⟨table, hinput, rfl, hread, hlines⟩ := Job.notes_of_select program.placeOf htask hresult
  refine ⟨table, _, hinput, hread, Report.decode?_reportBytes _, ?_⟩
  rw [stderr_exitOf hresult houtput, hlines, htask, closing]

/-- A command line that asks for columns of which one is the lowest number there is. -/
def lowestColumn : List String :=
  ["t", "1", "-9223372036854775808", "0", "1", "-o", "o", "--report", "r"]

/-- The job of that command line. -/
def lowestColumnJob : Job where
  task := .select [1, -9223372036854775808, 0, 1] (some "r")
  input := "t"
  output := some "o"

/-- Blank rows count for the numbers of the rows, but not in the closing line. -/
theorem notes_of_execute_lowestColumn :
    Tool.parse .select lowestColumn = some lowestColumnJob ∧
      lowestColumnJob.task = .select [1, -9223372036854775808, 0, 1] (some "r") ∧
      lowestColumnJob.output = some "o" ∧ Log.Filter.parse none = Log.Filter.standard ∧
      (Tool.execute .select Main.program none lowestColumn Job.oneFile).code = 0 ∧
      ∃ bytes,
        (Tool.execute .select Main.program none lowestColumn Job.oneFile).files.read "r"
          = .ok bytes ∧
        Report.decode? bytes
          = some [⟨1, -9223372036854775808, 2⟩, ⟨3, 1, 1⟩, ⟨3, -9223372036854775808, 1⟩] ∧
        (Tool.execute .select Main.program none lowestColumn Job.oneFile).stderr
          = printLines
            [" WARN row 1 has no column -9223372036854775808 (row has 2 columns)",
              " WARN row 3 has no column 1 (row has 1 columns)",
              " WARN row 3 has no column -9223372036854775808 (row has 1 columns)",
              "Wrote 2 rows to o (3 missing columns skipped)"] := by
  have hparse : Tool.parse .select lowestColumn = some lowestColumnJob := by decide +kernel
  have hcode : (Tool.execute .select Main.program none lowestColumn Job.oneFile).code = 0 := by
    decide +kernel
  obtain ⟨table, bytes, hinput, hread, hdecode, hstderr⟩ :=
    notes_of_execute hparse rfl rfl rfl hcode
  cases Job.hasInput_unique hinput (Job.hasInput_oneFile rfl rfl)
  exact ⟨hparse, rfl, rfl, rfl, hcode, bytes, hread, hdecode.trans (by decide +kernel),
    hstderr.trans (by decide +kernel)⟩

end CommandLine

end Tabular

/-
**Standard output and output file.**

Where the output of a command goes is decided last.  The input is read and everything is made of it
before any file is opened, and nothing that is told on the way mentions the output.  So the same
command prints the same bytes that it would write to a file, also if that is its own input, and
there is one more line on the standard error stream then, which names the file and tells how many
records or statements it holds.

A report is opened after the output.  It must not be the same file, for it would replace the output;
any other report is written as it is without an output, because writing a file leads no path
elsewhere.

All this is about command lines that ask for a job.  A request for help succeeds without one, and
an output behind it is not looked at.

Main definitions:

* `Tabular.CommandLine.MovesOutput` — **two exits of which the second has its output in a file**.

Main results:

* `Tabular.Job.perform_withOutput` — a job that prints its output, and the same job with a file;
* `Tabular.CommandLine.movesOutput_execute` — **standard output and output file get the same
  bytes**.
-/

import Tabular.Main
import Tabular.Proofs.CommandLine.Exit
import Tabular.Proofs.CommandLine.OutputOption
import Tabular.Proofs.Job

set_option autoImplicit false

namespace Tabular

/-! ### Jobs -/

namespace Job

/-- A job with a path for its output. -/
def withOutput (job : Job) (path : String) : Job := { job with output := some path }

/-- Where the report of a job that succeeds is written, if it has one. -/
theorem task_of_report {job : Job} {fs : FileSystem} {log : List Log.Event} {product : Product}
    {path : String} {bytes : Bytes}
    (hprepare : job.prepare (fs.source job.input) = ⟨log, .ok product⟩)
    (hreport : product.report = some (path, bytes)) :
    ∃ columns, job.task = .select columns (some path) := by
  obtain ⟨table, -, hproduct⟩ := hasInput_of_prepare hprepare
  obtain ⟨-, hreports⟩ := Task.gives_of_product hproduct
  rw [hreport] at hreports
  exact eq_select_of_reports hreports.symm

/-- **How a job ends that prints its output**, if it succeeds: only its report is written. -/
theorem perform_eq_of_output_eq_none {job : Job} {fs : FileSystem} {summary : Summary}
    (houtput : job.output = none) (h : (job.perform fs).result = .ok summary) :
    ∃ log product after, job.prepare (fs.source job.input) = ⟨log, .ok product⟩ ∧
      job.perform fs = ⟨after, product.output, log, .ok product.summary⟩ ∧
      (product.report = none ∧ after = fs ∨
        ∃ report bytes, product.report = some (report, bytes) ∧
          fs.write report bytes = .ok after) := by
  have hends := job.ends_perform fs
  generalize job.perform fs = outcome at h hends ⊢
  cases hends with
  | unprepared => cases h
  | outputRefused => cases h
  | reportRefused => cases h
  | unreported hprepare hdeliver hnone =>
      rw [houtput] at hdeliver
      cases hdeliver
      exact ⟨_, _, _, hprepare, rfl, Or.inl ⟨hnone, rfl⟩⟩
  | reported hprepare hdeliver hsome hwrite =>
      rw [houtput] at hdeliver
      cases hdeliver
      exact ⟨_, _, _, hprepare, rfl, Or.inr ⟨_, _, hsome, hwrite⟩⟩

/-- **A job that prints its output, and the same job with a file for it.** -/
theorem perform_withOutput {job : Job} {fs : FileSystem} {summary : Summary} {path : String}
    {location : Location} (houtput : job.output = none)
    (h : (job.perform fs).result = .ok summary) (hpath : fs.target path = .ok location)
    (hreport : ∀ columns report, job.task = .select columns (some report) →
      fs.target report ≠ .ok location) :
    ((job.withOutput path).perform fs).result = .ok summary ∧
      ((job.withOutput path).perform fs).stdout = [] ∧
      ((job.withOutput path).perform fs).log = (job.perform fs).log ∧
      ((job.withOutput path).perform fs).files.read path = .ok (job.perform fs).stdout ∧
      ∀ there, there ≠ location →
        ((job.withOutput path).perform fs).files.get? there
          = (job.perform fs).files.get? there := by
  obtain ⟨-, -, hfile⟩ := FileSystem.target_eq_ok_iff.1 hpath
  obtain ⟨log, product, after, hprepare, hperform, hafter⟩ :=
    perform_eq_of_output_eq_none houtput h
  rw [hperform] at h ⊢
  have hdeliver := deliver_of_target hpath product.output
  rcases hafter with ⟨hnone, hsame⟩ | ⟨report, bytes, hsome, hwrite⟩
  · have hends : (job.withOutput path).Ends fs _ := .unreported hprepare hdeliver hnone
    rw [← eq_perform_of_ends hends]
    refine ⟨h, rfl, rfl, ?_, ?_⟩
    · exact (FileSystem.setTo_of_write (FileSystem.write_eq_ok_iff.2 ⟨_, hpath, rfl⟩)).read_eq
    · intro there hthere
      rw [hsame]
      exact (FileSystem.get?_put fs _ _ _ (FileSystem.ne_nil_of_get?_ne hfile)).trans
        (if_neg hthere)
  · obtain ⟨place, hplace, rfl⟩ := FileSystem.write_eq_ok_iff.1 hwrite
    obtain ⟨-, -, hother⟩ := FileSystem.target_eq_ok_iff.1 hplace
    have hne : location ≠ place := by
      rintro rfl
      obtain ⟨columns, htask⟩ := task_of_report hprepare hsome
      exact hreport columns report htask hplace
    -- The output leads no path elsewhere, so the report is written where it was.
    have hbehind : (fs.put location (.file product.output)).write report bytes
        = .ok ((fs.put location (.file product.output)).put place (.file bytes)) :=
      FileSystem.write_eq_ok_iff.2
        ⟨place, (FileSystem.target_put_file_eq_ok_iff hfile report place).2 hplace, rfl⟩
    have hends : (job.withOutput path).Ends fs _ := .reported hprepare hdeliver hsome hbehind
    rw [← eq_perform_of_ends hends]
    refine ⟨h, rfl, rfl, ?_, ?_⟩
    · exact FileSystem.read_put_put hpath hother hne bytes
    · intro there hthere
      exact FileSystem.get?_put_put hfile (FileSystem.ne_nil_of_get?_ne hother) hthere bytes

/-- What a job that succeeds prints, if it has no output, is the output of its task; and it would
tell about that output if it had written it to a file. -/
theorem gives_stdout {job : Job} {fs : FileSystem} {summary : Summary}
    (houtput : job.output = none) (h : (job.perform fs).result = .ok summary) (path : String) :
    ∃ table, job.HasInput fs table ∧
      job.task.Gives job.delimiter table (job.perform fs).stdout summary.rows ∧
      job.task.ClosesWith table summary.rows path
        (CommandLine.closing job.task summary path) := by
  obtain ⟨log, product, after, hprepare, hperform, -⟩ := perform_eq_of_output_eq_none houtput h
  obtain ⟨table, hinput, hproduct⟩ := hasInput_of_prepare hprepare
  rw [hperform] at h ⊢
  cases h
  exact ⟨table, hinput, (Task.gives_of_product hproduct).1, Task.closesWith_closing hproduct path⟩

end Job

/-! ### Commands -/

namespace CommandLine

/-- **Two exits of which the second has its output in a file** and tells so in one more line. -/
structure MovesOutput (path : String) (location : Location) (line : String) (first second : Exit) :
    Prop where
  code_eq : second.code = 0
  /-- The file holds the bytes that were printed. -/
  read_eq : second.files.read path = .ok first.stdout
  stdout_eq : second.stdout = []
  stderr_eq : second.stderr = first.stderr ++ printLines [line]
  /-- No other place has changed. -/
  get?_eq : ∀ there, there ≠ location → second.files.get? there = first.files.get? there

theorem movesOutput_exitOf {program : Program} {job : Job} {filter : Log.Filter} {fs : FileSystem}
    {summary : Summary} {path : String} {location : Location} (houtput : job.output = none)
    (h : (job.perform fs).result = .ok summary) (hpath : fs.target path = .ok location)
    (hreport : ∀ columns report, job.task = .select columns (some report) →
      fs.target report ≠ .ok location) :
    MovesOutput path location (closing job.task summary path)
      (exitOf program job filter (job.perform fs))
      (exitOf program (job.withOutput path) filter ((job.withOutput path).perform fs)) := by
  obtain ⟨hresult, hstdout, hlog, hread, hget⟩ := Job.perform_withOutput houtput h hpath hreport
  refine ⟨?_, hread, hstdout, ?_, hget⟩
  · rw [exitOf, hresult]
    rfl
  · rw [stderr_exitOf hresult rfl, hlog, printLines_append,
      stderr_exitOf_of_output_eq_none h houtput]
    rfl

/-- **Standard output and output file get the same bytes.**  A command line that names no output and
succeeds may be given one, at any place where the option is read as one, and it then does the same
but for the place of the output: the file holds what was printed, and one line is added at the end,
which has the number of the records or statements in the file.  The file may be the input; only the
report, which is written later, must be another one. -/
theorem movesOutput_execute {tool : Tool} {program : Program} {setting : Option String}
    {before after option : List String} {fs : FileSystem} {job : Job} {path : String}
    {location : Location} (hparse : tool.parse (before ++ after) = some job)
    (houtput : job.output = none)
    (hcode : (tool.execute program setting (before ++ after) fs).code = 0)
    (hend : "--" ∉ before) (hbefore : (tool.gather none {} before).isSome)
    (hoption : NamesOutput path option) (hpath : fs.target path = .ok location)
    (hreport : ∀ columns report, job.task = .select columns (some report) →
      fs.target report ≠ .ok location) :
    ∃ table summary line, job.HasInput fs table ∧ (job.perform fs).result = .ok summary ∧
      job.task.Gives job.delimiter table
        (tool.execute program setting (before ++ after) fs).stdout summary.rows ∧
      job.task.ClosesWith table summary.rows path line ∧
      MovesOutput path location line (tool.execute program setting (before ++ after) fs)
        (tool.execute program setting (before ++ option ++ after) fs) := by
  have hne : path ≠ "" := by
    rintro rfl
    cases hpath
  have hfirst : tool.execute program setting (before ++ after) fs
      = exitOf program job (Log.Filter.parse setting) (job.perform fs) := by
    rw [Tool.execute, hparse]
  have hsecond : tool.execute program setting (before ++ option ++ after) fs
      = exitOf program (job.withOutput path) (Log.Filter.parse setting)
        ((job.withOutput path).perform fs) := by
    rw [Tool.execute, Tool.parse_insert hparse houtput hend hbefore hoption hne]
    rfl
  rw [hfirst] at hcode ⊢
  rw [hsecond]
  obtain ⟨summary, hresult⟩ := exists_result_of_code_exitOf hcode
  obtain ⟨table, hinput, hgives, hcloses⟩ := Job.gives_stdout houtput hresult path
  exact ⟨table, summary, _, hinput, hresult, hgives, hcloses,
    movesOutput_exitOf houtput hresult hpath hreport⟩

/-- A projection with a report that prints its output. -/
def reportOnly : Job where
  task := .select [1] (some "r")
  input := "t"
  output := none

/-- A melt that prints its output. -/
def meltOnly : Job where
  task := .melt [1] Melt.Labels.standard
  input := "t"
  output := none

/-- Statements that are printed. -/
def insertOnly : Job where
  task := .insert { target := "s" }
  input := "t"
  output := none

/-- The output takes the place of the input, and its option stands among the other arguments, behind
them or in front of them. -/
theorem movesOutput_execute_inPlace :
    (Tool.parse .select (["t"] ++ ["1", "--report", "r"]) = some reportOnly ∧
      (Tool.execute .select Main.program none (["t"] ++ ["1", "--report", "r"]) Job.oneFile).code
        = 0 ∧
      "--" ∉ ["t"] ∧ (Tool.gather .select none {} ["t"]).isSome ∧ NamesOutput "t" ["-o", "t"] ∧
      Job.oneFile.target "t" = .ok ["t"] ∧ Job.oneFile.target "r" = .ok ["r"] ∧
      ∃ first second,
        first = Tool.execute .select Main.program none ["t", "1", "--report", "r"] Job.oneFile ∧
        second = Tool.execute .select Main.program none ["t", "-o", "t", "1", "--report", "r"]
          Job.oneFile ∧
        first.stdout = Utf8.encode "b\n\"\"\n" ∧
        MovesOutput "t" ["t"] "Wrote 2 rows to t (1 missing columns skipped)" first second) ∧
    (Tool.parse .melt (["t", "1"] ++ []) = some meltOnly ∧
      ∃ first second,
        first = Tool.execute .melt Main.program none ["t", "1"] Job.oneFile ∧
        second = Tool.execute .melt Main.program none ["t", "1", "--output=t"] Job.oneFile ∧
        first.stdout = Utf8.encode "a,k,v\n,b,\n1,b,\n" ∧
        MovesOutput "t" ["t"] "Wrote 2 rows to t" first second) ∧
    Tool.parse .insert ([] ++ ["t", "s"]) = some insertOnly ∧
      ∃ first second,
        first = Tool.execute .insert Main.program none ["t", "s"] Job.oneFile ∧
        second = Tool.execute .insert Main.program none ["-ot", "t", "s"] Job.oneFile ∧
        first.stdout = Utf8.encode
          "INSERT INTO s VALUES (DEFAULT, 'a', 'b');\nINSERT INTO s VALUES (DEFAULT, '1');\n" ∧
        MovesOutput "t" ["t"] "Wrote 2 statements to t" first second := by
  have hpath : Job.oneFile.target "t" = .ok ["t"] := by decide +kernel
  have hplace : Job.oneFile.target "r" = .ok ["r"] := by decide +kernel
  refine ⟨?_, ?_, ?_⟩
  · have hparse : Tool.parse .select (["t"] ++ ["1", "--report", "r"]) = some reportOnly := by
      decide +kernel
    have hcode : (Tool.execute .select Main.program none (["t"] ++ ["1", "--report", "r"])
        Job.oneFile).code = 0 := by decide +kernel
    have hend : "--" ∉ ["t"] := by decide
    have hbefore : (Tool.gather .select none {} ["t"]).isSome := by decide +kernel
    have hoption : NamesOutput "t" ["-o", "t"] := .apart (Or.inr (by decide))
    have hreport : ∀ columns report, reportOnly.task = .select columns (some report) →
        Job.oneFile.target report ≠ .ok ["t"] := by
      rintro columns report ⟨⟩
      rw [hplace]
      decide
    have hresult : (reportOnly.perform Job.oneFile).result = .ok ⟨2, [⟨3, 1, 1⟩]⟩ := by
      decide +kernel
    obtain ⟨table, summary, line, hinput, hsummary, -, hcloses, hmoves⟩ :=
      movesOutput_execute hparse rfl hcode hend hbefore hoption hpath hreport
    rw [hresult] at hsummary
    cases hsummary
    cases Job.hasInput_unique hinput (Job.hasInput_oneFile rfl rfl)
    cases (show Task.ClosesWith _ 2 "t" (.select [1] (some "r")) line from hcloses)
    exact ⟨hparse, hcode, hend, hbefore, hoption, hpath, hplace, _, _, rfl, rfl,
      by decide +kernel, hmoves⟩
  · have hparse : Tool.parse .melt (["t", "1"] ++ []) = some meltOnly := by decide +kernel
    have hcode : (Tool.execute .melt Main.program none (["t", "1"] ++ []) Job.oneFile).code
        = 0 := by decide +kernel
    have hresult : (meltOnly.perform Job.oneFile).result = .ok ⟨2, []⟩ := by decide +kernel
    obtain ⟨table, summary, line, -, hsummary, -, hcloses, hmoves⟩ :=
      movesOutput_execute hparse rfl hcode (by decide) (by decide +kernel) .longJoined hpath
        (by rintro columns report ⟨⟩)
    rw [hresult] at hsummary
    cases hsummary
    cases (show Task.ClosesWith _ 2 "t" (.melt [1] Melt.Labels.standard) line from hcloses)
    exact ⟨hparse, _, _, rfl, rfl, by decide +kernel, hmoves⟩
  · have hparse : Tool.parse .insert ([] ++ ["t", "s"]) = some insertOnly := by decide +kernel
    have hcode : (Tool.execute .insert Main.program none ([] ++ ["t", "s"]) Job.oneFile).code
        = 0 := by decide +kernel
    have hresult : (insertOnly.perform Job.oneFile).result = .ok ⟨2, []⟩ := by decide +kernel
    obtain ⟨table, summary, line, -, hsummary, -, hcloses, hmoves⟩ :=
      movesOutput_execute hparse rfl hcode (by decide) (by decide +kernel)
        (.attached (by decide) (by decide)) hpath (by rintro columns report ⟨⟩)
    rw [hresult] at hsummary
    cases hsummary
    cases (show Task.ClosesWith _ 2 "t" (.insert { target := "s" }) line from hcloses)
    exact ⟨hparse, _, _, rfl, rfl, by decide +kernel, hmoves⟩

end CommandLine

end Tabular

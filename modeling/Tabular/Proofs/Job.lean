/-
**What a job does to the files.**

A job either fails before it has opened anything for writing, or it has made all of its output by
then.  So a job that fails leaves the files as they were, with one exception: a report is opened
only when the output is written, and if that cannot be done the output stays.  Every projection ends
like this that can open its output and not its report.

A job that succeeds has set its output, and then its report, to what the table in its input gives;
and that table is read from the bytes that stood there before, so that nothing depends on which of
the paths name one file.

Main definitions:

* `Tabular.Job.Ends` — the ways in which a job ends;
* `Tabular.Job.HasInput` — the table in the input of a job;
* `Tabular.Task.Gives`, `Tabular.Task.reports` — what a task is to write for a table.

Main results:

* `Tabular.Job.ends_perform` — a job ends in one of these ways;
* `Tabular.Job.exists_reportRefused` — an output stays where its report cannot be opened;
* `Tabular.Job.files_of_failure` — **a job that fails leaves the files alone**, with the exception
  of such an output;
* `Tabular.Job.files_of_success` — **a job that succeeds sets its output and its report and nothing
  else**.
-/

import Mathlib.Control.Monad.Basic
import Tabular.Job
import Tabular.Proofs.FileSystem

set_option autoImplicit false

namespace Tabular

/-! ### What a task is to write -/

/-- **The output of a task for a table**, and the number of its rows. -/
inductive Task.Gives (delimiter : UInt8) (table : Table) : Task → Bytes → Nat → Prop
  | select (columns : List Int) (report : Option String) :
      Gives delimiter table (.select columns report)
        (Delimited.print delimiter (Projected.ofTable table columns).records)
        (Projected.ofTable table columns).records.length
  /-- The header is written like a record, but not counted. -/
  | melt {columns : List Int} {labels : Melt.Labels} {long : Melt.LongTable} :
      Melt.LongTable.ofTable table columns labels = .ok long →
        Gives delimiter table (.melt columns labels)
          (Delimited.print delimiter (long.header :: long.records)) long.records.length
  | insert (inserter : Sql.Inserter) :
      Gives delimiter table (.insert inserter)
        ((inserter.statements table).flatMap fun line => Utf8.encode line ++ [Delimited.lf])
        (inserter.statements table).length

/-- The report of a task, if it has one: a line for each note, in order. -/
def Task.reports (table : Table) : Task → List (String × Bytes)
  | .select columns (some path) =>
      [(path, (Projected.ofTable table columns).missing.flatMap fun note =>
        Utf8.encode note.json ++ [Delimited.lf])]
  | .select _ none => []
  | .melt _ _ => []
  | .insert _ => []

theorem Task.gives_of_product {delimiter : UInt8} {table : Table} {task : Task} {product : Product}
    (h : (task.product delimiter table).2 = .ok product) :
    task.Gives delimiter table product.output product.summary.rows ∧
      product.report.toList = task.reports table := by
  cases task with
  | select columns report =>
      cases h
      refine ⟨.select columns report, ?_⟩
      cases report with
      | none => rfl
      | some path => simp [Task.reports, reportBytes, printLines, List.flatMap_map]
  | melt columns labels =>
      rw [Task.product] at h
      split at h
      · cases h
      · next long hlong =>
          cases h
          exact ⟨.melt hlong, rfl⟩
  | insert inserter =>
      cases h
      exact ⟨.insert inserter, rfl⟩

theorem Task.output_of_gives_select {delimiter : UInt8} {table : Table} {columns : List Int}
    {report : Option String} {output : Bytes} {rows : Nat}
    (h : Gives delimiter table (.select columns report) output rows) :
    output = Delimited.print delimiter (Projected.ofTable table columns).records := by
  cases h
  rfl

namespace Job

/-! ### The ways in which a job ends -/

/-- The table that the input of a job holds. -/
def HasInput (job : Job) (fs : FileSystem) (table : Table) : Prop :=
  ∃ bytes, fs.read job.input = .ok bytes ∧ Delimited.parse job.delimiter bytes = .ok table

theorem hasInput_unique {job : Job} {fs : FileSystem} {table other : Table}
    (h : job.HasInput fs table) (hother : job.HasInput fs other) : table = other := by
  obtain ⟨bytes, hread, hparse⟩ := h
  obtain ⟨_, hsame, hrows⟩ := hother
  rw [hread] at hsame
  cases hsame
  rw [hparse] at hrows
  cases hrows
  rfl

/-- **The ways in which a job ends.** -/
inductive Ends (job : Job) (fs : FileSystem) : Outcome → Prop
  /-- Nothing could be made of the input. -/
  | unprepared {log : List Log.Event} {failure : Failure} :
      job.prepare (fs.source job.input) = ⟨log, .error failure⟩ →
        Ends job fs ⟨fs, [], log, .error failure⟩
  | outputRefused {log : List Log.Event} {product : Product} {error : FileError} :
      job.prepare (fs.source job.input) = ⟨log, .ok product⟩ →
        fs.deliver product.output job.output = .error error →
        Ends job fs ⟨fs, [], log, .error (.file error)⟩
  | reportRefused {log : List Log.Event} {product : Product} {written : FileSystem}
      {stdout bytes : Bytes} {path : String} {error : FileError} :
      job.prepare (fs.source job.input) = ⟨log, .ok product⟩ →
        fs.deliver product.output job.output = .ok (written, stdout) →
        product.report = some (path, bytes) → written.write path bytes = .error error →
        Ends job fs ⟨written, stdout, log, .error (.file error)⟩
  /-- There was no report to write. -/
  | unreported {log : List Log.Event} {product : Product} {written : FileSystem} {stdout : Bytes} :
      job.prepare (fs.source job.input) = ⟨log, .ok product⟩ →
        fs.deliver product.output job.output = .ok (written, stdout) → product.report = none →
        Ends job fs ⟨written, stdout, log, .ok product.summary⟩
  | reported {log : List Log.Event} {product : Product} {written after : FileSystem}
      {stdout bytes : Bytes} {path : String} :
      job.prepare (fs.source job.input) = ⟨log, .ok product⟩ →
        fs.deliver product.output job.output = .ok (written, stdout) →
        product.report = some (path, bytes) → written.write path bytes = .ok after →
        Ends job fs ⟨after, stdout, log, .ok product.summary⟩

theorem ends_perform (job : Job) (fs : FileSystem) : job.Ends fs (job.perform fs) := by
  cases hprepare : job.prepare (fs.source job.input) with
  | mk log result =>
  rw [perform, hprepare]
  cases result with
  | error failure => exact .unprepared hprepare
  | ok product =>
      cases hdeliver : fs.deliver product.output job.output with
      | error error =>
          simp only [hdeliver]
          exact .outputRefused hprepare hdeliver
      | ok delivered =>
          obtain ⟨written, stdout⟩ := delivered
          simp only [hdeliver]
          cases hreport : product.report with
          | none => exact .unreported hprepare hdeliver hreport
          | some report =>
              obtain ⟨path, bytes⟩ := report
              dsimp only
              cases hwrite : written.write path bytes with
              | error error => exact .reportRefused hprepare hdeliver hreport hwrite
              | ok after => exact .reported hprepare hdeliver hreport hwrite

/-- A job ends in one way only. -/
theorem eq_perform_of_ends {job : Job} {fs : FileSystem} {outcome : Outcome}
    (h : job.Ends fs outcome) : outcome = job.perform fs := by
  cases h with
  | unprepared hprepare => rw [perform, hprepare]
  | outputRefused hprepare hdeliver => simp only [perform, hprepare, hdeliver]
  | reportRefused hprepare hdeliver hreport hwrite =>
      simp only [perform, hprepare, hdeliver, hreport, hwrite]
  | unreported hprepare hdeliver hreport => simp only [perform, hprepare, hdeliver, hreport]
  | reported hprepare hdeliver hreport hwrite =>
      simp only [perform, hprepare, hdeliver, hreport, hwrite]

/-- What is made of the table in the input.  That it was read is told before anything about it. -/
theorem prepare_of_hasInput {job : Job} {fs : FileSystem} {table : Table}
    (h : job.HasInput fs table) :
    job.prepare (fs.source job.input)
      = ⟨⟨.reader, .debug, "read table",
            [("path", job.input), ("rows", toString table.length)]⟩
          :: (job.task.product job.delimiter table).1,
        (job.task.product job.delimiter table).2⟩ := by
  obtain ⟨bytes, hread, hparse⟩ := h
  have hsource : fs.source job.input = .ok bytes := by
    rw [FileSystem.source, hread]
    rfl
  rw [hsource]
  simp only [prepare, hparse]

/-- Where something is made of the input, the input holds a table. -/
theorem log_of_prepare {job : Job} {fs : FileSystem} {log : List Log.Event} {product : Product}
    (h : job.prepare (fs.source job.input) = ⟨log, .ok product⟩) :
    ∃ table, job.HasInput fs table ∧ (job.task.product job.delimiter table).2 = .ok product ∧
      log = ⟨.reader, .debug, "read table",
          [("path", job.input), ("rows", toString table.length)]⟩
        :: (job.task.product job.delimiter table).1 := by
  cases hread : fs.read job.input with
  | error error => simp [FileSystem.source, hread, Except.mapError, prepare] at h
  | ok bytes =>
      cases hparse : Delimited.parse job.delimiter bytes with
      | error cause => simp [FileSystem.source, hread, Except.mapError, prepare, hparse] at h
      | ok table =>
          have hinput : job.HasInput fs table := ⟨bytes, hread, hparse⟩
          rw [prepare_of_hasInput hinput, Prepared.mk.injEq] at h
          exact ⟨table, hinput, h.2, h.1.symm⟩

theorem hasInput_of_prepare {job : Job} {fs : FileSystem} {log : List Log.Event}
    {product : Product} (h : job.prepare (fs.source job.input) = ⟨log, .ok product⟩) :
    ∃ table, job.HasInput fs table ∧
      (job.task.product job.delimiter table).2 = .ok product := by
  obtain ⟨table, hinput, hproduct, -⟩ := log_of_prepare h
  exact ⟨table, hinput, hproduct⟩

theorem deliver_of_target {fs : FileSystem} {path : String} {location : Location}
    (h : fs.target path = .ok location) (bytes : Bytes) :
    fs.deliver bytes (some path) = .ok (fs.put location (.file bytes), []) := by
  rw [FileSystem.deliver, FileSystem.write, h]
  rfl

theorem setTo_of_deliver {fs written : FileSystem} {bytes stdout : Bytes} {path : String}
    (h : fs.deliver bytes (some path) = .ok (written, stdout)) : fs.SetTo path bytes written := by
  obtain ⟨after, hwrite, heq⟩ := FileSystem.bind_eq_ok_iff.1 h
  cases heq
  exact FileSystem.setTo_of_write hwrite

/-! ### Jobs that fail -/

/-- **A projection that has written its output and cannot open its report.** -/
inductive ReportRefused (job : Job) (fs after : FileSystem) : Failure → Prop
  | intro {columns : List Int} {report path : String} {table : Table} {error : FileError} :
      job.task = .select columns (some report) → job.output = some path → job.HasInput fs table →
        fs.SetTo path
          (Delimited.print job.delimiter (Projected.ofTable table columns).records) after →
        after.target report = .error error → ReportRefused job fs after (.file error)

/-- Only a projection has a report. -/
theorem eq_select_of_reports {task : Task} {table : Table} {path : String} {bytes : Bytes}
    (h : task.reports table = [(path, bytes)]) :
    ∃ columns, task = .select columns (some path) := by
  cases task with
  | select columns report =>
      cases report with
      | none => cases h
      | some report =>
          cases h
          exact ⟨columns, rfl⟩
  | melt => cases h
  | insert => cases h

/-- An output that cannot be opened ends the job. -/
theorem files_of_target_error {job : Job} {fs : FileSystem} {path : String} {error : FileError}
    (houtput : job.output = some path) (h : fs.target path = .error error) :
    (job.perform fs).files = fs := by
  have hdeliver {bytes stdout : Bytes} {written : FileSystem} :
      fs.deliver bytes job.output ≠ .ok (written, stdout) := by
    intro hdeliver
    rw [houtput] at hdeliver
    obtain ⟨location, hlocation, -⟩ := (setTo_of_deliver hdeliver).get?_eq
    rw [h] at hlocation
    cases hlocation
  have hends := job.ends_perform fs
  generalize job.perform fs = outcome at hends ⊢
  cases hends with
  | unprepared => rfl
  | outputRefused => rfl
  | reportRefused _ hwritten => exact absurd hwritten hdeliver
  | unreported _ hwritten => exact absurd hwritten hdeliver
  | reported _ hwritten => exact absurd hwritten hdeliver

/-- An input of which nothing can be made ends the job. -/
theorem files_of_prepare_error {job : Job} {fs : FileSystem} {failure : Failure}
    (h : (job.prepare (fs.source job.input)).result = .error failure) :
    (job.perform fs).files = fs := by
  rw [perform, h]

/-- **An output stays where its report cannot be opened.**  Writing the output does not make the
report possible, though it may change why it is not: a file may then stand where nothing was. -/
theorem exists_reportRefused {job : Job} {fs : FileSystem} {table : Table} {columns : List Int}
    {report path : String} {location : Location} {error : FileError}
    (htask : job.task = .select columns (some report)) (houtput : job.output = some path)
    (hinput : job.HasInput fs table) (hpath : fs.target path = .ok location)
    (hreport : fs.target report = .error error) :
    ∃ failure, (job.perform fs).result = .error failure ∧
      job.ReportRefused fs (job.perform fs).files failure := by
  have hprepare := prepare_of_hasInput hinput
  rw [htask] at hprepare
  have hdeliver := deliver_of_target hpath
    (Delimited.print job.delimiter (Projected.ofTable table columns).records)
  rw [← houtput] at hdeliver
  obtain ⟨-, -, hfile⟩ := FileSystem.target_eq_ok_iff.1 hpath
  cases htarget : (fs.put location (.file
      (Delimited.print job.delimiter (Projected.ofTable table columns).records))).target report with
  | ok place =>
      rw [FileSystem.target_put_file_eq_ok_iff hfile, hreport] at htarget
      cases htarget
  | error cause =>
      have hends := Ends.reportRefused hprepare hdeliver rfl
        (FileSystem.write_eq_error_iff.2 htarget)
      rw [← eq_perform_of_ends hends]
      exact ⟨_, rfl, .intro htask houtput hinput
        (FileSystem.setTo_of_write (FileSystem.write_eq_ok_iff.2 ⟨location, hpath, rfl⟩)) htarget⟩

/-- Only a report that cannot be opened ends a job when something was written. -/
theorem files_eq_or_reportRefused {job : Job} {fs : FileSystem} {failure : Failure}
    (h : (job.perform fs).result = .error failure) :
    (job.perform fs).files = fs ∨ job.ReportRefused fs (job.perform fs).files failure := by
  have hends := job.ends_perform fs
  generalize job.perform fs = outcome at h hends ⊢
  cases hends with
  | unprepared => exact Or.inl rfl
  | outputRefused => exact Or.inl rfl
  | unreported => cases h
  | reported => cases h
  | @reportRefused log product written stdout bytes report error hprepare hdeliver hreport hwrite =>
      cases h
      obtain ⟨table, hinput, hproduct⟩ := hasInput_of_prepare hprepare
      obtain ⟨hgives, hreports⟩ := Task.gives_of_product hproduct
      rw [hreport] at hreports
      obtain ⟨columns, htask⟩ := eq_select_of_reports hreports.symm
      cases houtput : job.output with
      | none =>
          rw [houtput] at hdeliver
          cases hdeliver
          exact Or.inl rfl
      | some path =>
          rw [houtput] at hdeliver
          have hset := setTo_of_deliver hdeliver
          rw [htask] at hgives
          rw [Task.output_of_gives_select hgives] at hset
          exact Or.inr ⟨htask, houtput, hinput, hset, FileSystem.write_eq_error_iff.1 hwrite⟩

/-- **A job that fails leaves the files alone**, unless it could not open the report of a projection
whose output was written.  In particular nothing changes when the output cannot be opened, or when
nothing can be made of the input.  The exception is real: the output stays whenever it could be
opened and the report could not. -/
theorem files_of_failure {job : Job} {fs : FileSystem} {failure : Failure}
    (h : (job.perform fs).result = .error failure) :
    ((job.perform fs).files = fs ∨ job.ReportRefused fs (job.perform fs).files failure) ∧
      (∀ path error, job.output = some path → fs.target path = .error error →
        (job.perform fs).files = fs) ∧
      (∀ cause, (job.prepare (fs.source job.input)).result = .error cause →
        (job.perform fs).files = fs) ∧
      ∀ columns report path location error table, job.task = .select columns (some report) →
        job.output = some path → job.HasInput fs table → fs.target path = .ok location →
        fs.target report = .error error →
        job.ReportRefused fs (job.perform fs).files failure := by
  refine ⟨files_eq_or_reportRefused h, fun _ _ => files_of_target_error,
    fun _ => files_of_prepare_error, ?_⟩
  intro columns report path location error table htask houtput hinput hpath hreport
  obtain ⟨other, hother, hrefused⟩ := exists_reportRefused htask houtput hinput hpath hreport
  rw [h] at hother
  cases hother
  exact hrefused

/-- One file with a blank line and a short row. -/
def oneFile : FileSystem where
  entries := [(["t"], .file (Utf8.encode "a,b\n\n1\n"))]

theorem hasInput_oneFile {job : Job} (hinput : job.input = "t")
    (hdelimiter : job.delimiter = Delimited.comma) :
    job.HasInput oneFile [["a", "b"], [], ["1"]] := by
  rw [HasInput, hinput, hdelimiter]
  exact ⟨Utf8.encode "a,b\n\n1\n", by decide +kernel, by decide +kernel⟩

/-- A projection in place whose report would lie below a directory that does not exist. -/
def lostReport : Job where
  task := .select [1] (some "no/r")
  input := "t"
  output := some "t"

/-- An output below a file. -/
def lostOutput : Job where
  task := .select [1] (some "r")
  input := "t"
  output := some "t/u"

/-- A melt in place of a column that does not exist. -/
def badMelt : Job where
  task := .melt [0, 5] Melt.Labels.standard
  input := "t"
  output := some "t"

/-- The report is lost and the output stays; and nothing changes where the output cannot be opened
or the melt is refused. -/
theorem files_of_failure_oneFile :
    ((lostReport.perform oneFile).result = .error (.file .notFound) ∧
        oneFile.target "t" = .ok ["t"] ∧ oneFile.target "no/r" = .error .notFound ∧
        lostReport.HasInput oneFile [["a", "b"], [], ["1"]] ∧
        lostReport.ReportRefused oneFile (lostReport.perform oneFile).files (.file .notFound)) ∧
      ((lostOutput.perform oneFile).result = .error (.file .notADirectory) ∧
        oneFile.target "t/u" = .error .notADirectory ∧
        (lostOutput.perform oneFile).files = oneFile) ∧
      (badMelt.perform oneFile).result = .error (.melt (.noSuchColumn 5 2)) ∧
        (badMelt.prepare (oneFile.source "t")).result = .error (.melt (.noSuchColumn 5 2)) ∧
        (badMelt.perform oneFile).files = oneFile := by
  have hreport : (lostReport.perform oneFile).result = .error (.file .notFound) := by
    decide +kernel
  have hpath : oneFile.target "t" = .ok ["t"] := by decide +kernel
  have hlost : oneFile.target "no/r" = .error .notFound := by decide +kernel
  have hinput : lostReport.HasInput oneFile [["a", "b"], [], ["1"]] := hasInput_oneFile rfl rfl
  have houtput : (lostOutput.perform oneFile).result = .error (.file .notADirectory) := by
    decide +kernel
  have htarget : oneFile.target "t/u" = .error .notADirectory := by decide +kernel
  have hmelt : (badMelt.perform oneFile).result = .error (.melt (.noSuchColumn 5 2)) := by
    decide +kernel
  have hprepare : (badMelt.prepare (oneFile.source "t")).result
      = .error (.melt (.noSuchColumn 5 2)) := by decide +kernel
  refine ⟨⟨hreport, hpath, hlost, hinput, ?_⟩, ⟨houtput, htarget, ?_⟩, hmelt, hprepare, ?_⟩
  · exact (files_of_failure hreport).2.2.2 _ _ _ _ _ _ rfl rfl hinput hpath hlost
  · exact (files_of_failure houtput).2.1 "t/u" .notADirectory rfl htarget
  · exact (files_of_failure hmelt).2.2.1 _ hprepare

/-! ### Jobs that succeed -/

/-- **A job that succeeds sets its output, and then its report, and nothing else**: to what the task
gives for the table that its input held before.  Any of the paths may name the same file. -/
theorem files_of_success {job : Job} {fs : FileSystem} {path : String} {summary : Summary}
    (houtput : job.output = some path) (h : (job.perform fs).result = .ok summary) :
    ∃ table output, job.HasInput fs table ∧
      job.task.Gives job.delimiter table output summary.rows ∧
      fs.SetAll ((path, output) :: job.task.reports table) (job.perform fs).files := by
  have hends := job.ends_perform fs
  generalize job.perform fs = outcome at h hends ⊢
  cases hends with
  | unprepared => cases h
  | outputRefused => cases h
  | reportRefused => cases h
  | unreported hprepare hdeliver hreport =>
      cases h
      obtain ⟨table, hinput, hproduct⟩ := hasInput_of_prepare hprepare
      obtain ⟨hgives, hreports⟩ := Task.gives_of_product hproduct
      rw [houtput] at hdeliver
      rw [hreport] at hreports
      refine ⟨table, _, hinput, hgives, .cons (setTo_of_deliver hdeliver) ?_⟩
      rw [← hreports]
      exact .nil _
  | reported hprepare hdeliver hreport hwrite =>
      cases h
      obtain ⟨table, hinput, hproduct⟩ := hasInput_of_prepare hprepare
      obtain ⟨hgives, hreports⟩ := Task.gives_of_product hproduct
      rw [houtput] at hdeliver
      rw [hreport] at hreports
      refine ⟨table, _, hinput, hgives, .cons (setTo_of_deliver hdeliver) ?_⟩
      rw [← hreports]
      exact .cons (FileSystem.setTo_of_write hwrite) (.nil _)

/-- A projection in place with its report in the same file, which two paths name. -/
def reportInPlace : Job where
  task := .select [1] (some "t")
  input := "t"
  output := some "./t"

/-- A melt in place. -/
def meltInPlace : Job where
  task := .melt [1] Melt.Labels.standard
  input := "t"
  output := some "t"

/-- The report is written last, and where there is none the output stays. -/
theorem files_of_success_reportInPlace :
    (reportInPlace.output = some "./t" ∧
      (reportInPlace.perform oneFile).result = .ok ⟨2, [⟨3, 1, 1⟩]⟩ ∧
      (∃ table output, reportInPlace.HasInput oneFile table ∧
        reportInPlace.task.Gives Delimited.comma table output 2 ∧
        oneFile.SetAll (("./t", output) :: reportInPlace.task.reports table)
          (reportInPlace.perform oneFile).files) ∧
      (reportInPlace.perform oneFile).files.read "./t"
        = .ok (Utf8.encode "\x7b\"row\":3,\"index\":1,\"width\":1\x7d\n")) ∧
    meltInPlace.output = some "t" ∧ (meltInPlace.perform oneFile).result = .ok ⟨2, []⟩ ∧
      (∃ table output, meltInPlace.HasInput oneFile table ∧
        meltInPlace.task.Gives Delimited.comma table output 2 ∧
        oneFile.SetAll [("t", output)] (meltInPlace.perform oneFile).files) ∧
      (meltInPlace.perform oneFile).files.read "t"
        = .ok (Utf8.encode "a,k,v\n,b,\n1,b,\n") := by
  have hreport : (reportInPlace.perform oneFile).result = .ok ⟨2, [⟨3, 1, 1⟩]⟩ := by
    decide +kernel
  have hmelt : (meltInPlace.perform oneFile).result = .ok ⟨2, []⟩ := by decide +kernel
  exact ⟨⟨rfl, hreport, files_of_success rfl hreport, by decide +kernel⟩,
    rfl, hmelt, files_of_success rfl hmelt, by decide +kernel⟩

end Job

end Tabular

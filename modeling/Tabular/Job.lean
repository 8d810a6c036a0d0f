/-
**Running a tool on files.**

A job reads its whole input, transforms the table, and only then opens its output; the report of a
projection, if one is asked for, is opened after the output is written.  So a job that fails
before its output is opened leaves all files as they were, and input, output and report may be the
same file.

The work is divided in two.  `Job.prepare` decides everything that depends on the input, from the
bytes of the input alone; `Job.perform` reads these bytes from the files and writes what was
prepared.

Main definitions:

* `Tabular.Task`, `Tabular.Job` — what is to be done with a table, and with which files;
* `Tabular.Task.product` — the output of a task for a table;
* `Tabular.Job.prepare` — the output of a job for the bytes of its input;
* `Tabular.Job.perform` — **the whole job**.
-/

import Tabular.Projection
import Tabular.Sql.Insert
import Tabular.Melt.LongForm
import Tabular.Writer
import Tabular.Failure
import Tabular.Log.Event

set_option autoImplicit false

namespace Tabular

open Log (Event)

/-! ### What is asked for -/

/-- What is to be done with a table. -/
inductive Task
  /-- Project it onto columns, and report missing columns to a file if one is named. -/
  | select (columns : List Int) (report : Option String)
  | melt (columns : List Int) (labels : Melt.Labels)
  | insert (inserter : Sql.Inserter)
  deriving DecidableEq, Repr

/-- A task with its files. -/
structure Job where
  task : Task
  /-- The byte between cells, in the input and the output. -/
  delimiter : UInt8 := Delimited.comma
  input : String
  /-- The path of the output, unless it is the standard output. -/
  output : Option String
  deriving DecidableEq, Repr

/-- What a job tells about itself. -/
structure Summary where
  /-- The number of records or statements written, headers not counted. -/
  rows : Nat
  /-- The columns that rows did not have. -/
  missing : List MissingColumn := []
  deriving DecidableEq, Repr

/-- What a task makes of a table. -/
structure Product where
  /-- The bytes of the output. -/
  output : Bytes
  /-- The path and the bytes of the report. -/
  report : Option (String × Bytes) := none
  /-- What is told about it. -/
  summary : Summary
  deriving DecidableEq, Repr

/-! ### From the bytes of the input to those of the output -/

/-- The bytes of a report: one line for each note. -/
def reportBytes (notes : List MissingColumn) : Bytes := printLines (notes.map MissingColumn.json)

/-- What a task makes of a table, and what it tells on the way. -/
def Task.product (delimiter : UInt8) (table : Table) :
    Task → List Event × Except Failure Product
  | .select columns report =>
      let projected := Projected.ofTable table columns
      let rows := projected.records.length
      let missing := projected.missing
      ( ⟨.projection, .debug, "projected table",
            [("rows", toString rows), ("dropped", toString missing.length)]⟩
          :: missing.map fun note => ⟨.job, .warn, note.text, []⟩,
        .ok
          { output := Delimited.print delimiter projected.records
            report := report.map fun path => (path, reportBytes missing)
            summary := ⟨rows, missing⟩ } )
  | .melt columns labels =>
      match Melt.LongTable.ofTable table columns labels with
      | .error refusal => ([], .error (.melt refusal))
      | .ok long =>
          let rows := long.records.length
          ( [⟨.melt, .debug, "melted table",
              [("input", toString (table.length - 1)), ("output", toString rows)]⟩],
            .ok
              { output := Delimited.print delimiter long.toTable
                summary := ⟨rows, []⟩ } )
  | .insert inserter =>
      let statements := inserter.statements table
      let rows := statements.length
      ( [⟨.insert, .debug, "synthesized inserts",
          [("table", inserter.target), ("rows", toString table.length),
            ("statements", toString rows)]⟩],
        .ok { output := printLines statements, summary := ⟨rows, []⟩ } )

/-- What a job makes of its input, or why it fails before any file is opened for writing. -/
structure Prepared where
  /-- What is told on the way. -/
  log : List Event
  result : Except Failure Product

/-- **The output of a job for the bytes of its input.** -/
def Job.prepare (job : Job) (source : Except Failure Bytes) : Prepared :=
  match source with
  | .error failure => ⟨[], .error failure⟩
  | .ok bytes =>
      match Delimited.parse job.delimiter bytes with
      | .error cause => ⟨[], .error (.malformed cause)⟩
      | .ok table =>
          let (log, result) := job.task.product job.delimiter table
          let read : Event :=
            ⟨.reader, .debug, "read table",
              [("path", job.input), ("rows", toString table.length)]⟩
          ⟨read :: log, result⟩

/-! ### The files -/

/-- The failure to open an input.  Where nothing can stand there is no input file. -/
def Failure.ofInputError (path : String) : FileError → Failure
  | .notFound => .inputNotFound path
  | .notADirectory => .inputNotFound path
  | .nameTooLong => .inputNotFound path
  | .nulInPath => .inputNotFound path
  | .isDirectory => .file .isDirectory
  | .other reason => .file (.other reason)

/-- The bytes of the input at a path. -/
def FileSystem.source (fs : FileSystem) (path : String) : Except Failure Bytes :=
  (fs.read path).mapError (Failure.ofInputError path)

/-- What a job leaves behind. -/
structure Outcome where
  files : FileSystem
  stdout : Bytes
  /-- What was told on the way. -/
  log : List Event
  /-- A summary, or why the job failed. -/
  result : Except Failure Summary

/-- The files after writing to a path, and what goes to the standard output where no path is
given. -/
def FileSystem.deliver (fs : FileSystem) (bytes : Bytes) :
    Option String → Except FileError (FileSystem × Bytes)
  | none => .ok (fs, bytes)
  | some path => do return (← fs.write path bytes, [])

/-- **The whole job**: the input is read, then the output is written, then the report. -/
def Job.perform (job : Job) (fs : FileSystem) : Outcome :=
  let prepared := job.prepare (fs.source job.input)
  match prepared.result with
  | .error failure => ⟨fs, [], prepared.log, .error failure⟩
  | .ok product =>
      match fs.deliver product.output job.output with
      | .error error => ⟨fs, [], prepared.log, .error (.file error)⟩
      | .ok (written, stdout) =>
          match product.report with
          | none => ⟨written, stdout, prepared.log, .ok product.summary⟩
          | some (path, bytes) =>
              match written.write path bytes with
              | .error error => ⟨written, stdout, prepared.log, .error (.file error)⟩
              | .ok reported => ⟨reported, stdout, prepared.log, .ok product.summary⟩

end Tabular

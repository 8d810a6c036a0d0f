/-
**How a command ends.**

A command prints the output of its job, unless that goes to a file, and tells on the standard
error stream what happened: first the log lines that are to be shown, then either a line that names
the file written or the failure with its cause.  The exit code is 0 after a job that succeeded, 1
after one that failed and 2 if the command line asks for no job.

The one exception is a request for help, which asks for no job: the help is printed, the exit code
is 0, and no file is touched.

Main definitions:

* `Tabular.CommandLine.Program` — how a program and its parts are called;
* `Tabular.CommandLine.closing` — the line that names the file written;
* `Tabular.CommandLine.messages` — all that is told about a job;
* `Tabular.CommandLine.Tool.execute` — **what a command line does to files**.
-/

import Tabular.CommandLine.Command
import Tabular.Log.Filter

set_option autoImplicit false

namespace Tabular

namespace CommandLine

open Log (Event Filter)

/-- How a program and its parts are called. -/
structure Program where
  name : String
  /-- The places of events, which a log setting may name. -/
  placeOf : Log.Origin → String
  /-- The lines that a tool prints on request. -/
  help : Tool → List String := fun tool => [tool.usage name]

/-- What a command leaves behind. -/
structure Exit where
  code : UInt8
  stdout : Bytes
  stderr : Bytes
  files : FileSystem

/-- What was written, in words, with the path it was written to. -/
def closing (task : Task) (summary : Summary) (path : String) : String :=
  match task with
  | .select _ _ =>
      "Wrote " ++ toString summary.rows ++ " rows to " ++ path ++ " ("
        ++ toString summary.missing.length ++ " missing columns skipped)"
  | .melt _ _ => "Wrote " ++ toString summary.rows ++ " rows to " ++ path
  | .insert _ => "Wrote " ++ toString summary.rows ++ " statements to " ++ path

/-- A failure and, below it, its cause. -/
def complaint (failure : Failure) : List String :=
  ("Error: " ++ failure.message) ::
    match failure.cause? with
    | none => []
    | some cause => ["", "Caused by:", "    " ++ cause]

/-- **All that is told about a job.** -/
def messages (program : Program) (job : Job) (filter : Filter) (log : List Event)
    (result : Except Failure Summary) : List String :=
  filter.lines program.placeOf log ++
    match result with
    | .error failure => complaint failure
    | .ok summary => (job.output.map (closing job.task summary)).toList

/-- The exit code after a job. -/
def exitCode (result : Except Failure Summary) : UInt8 :=
  match result with
  | .error _ => 1
  | .ok _ => 0

/-- The exit code after a command line that asks neither for a job nor for help. -/
def usageCode : UInt8 := 2

/-- What is left behind where no job is asked for: the help, or how the tool is called. -/
def Tool.explain (tool : Tool) (program : Program) (args : List String) (fs : FileSystem) : Exit :=
  if tool.asksForHelp args then ⟨0, printLines (program.help tool), [], fs⟩
  else ⟨usageCode, [], printLines [tool.usage program.name], fs⟩

/-- What a job leaves behind as a command. -/
def exitOf (program : Program) (job : Job) (filter : Filter) (outcome : Outcome) : Exit where
  code := exitCode outcome.result
  stdout := outcome.stdout
  stderr := printLines (messages program job filter outcome.log outcome.result)
  files := outcome.files

/-- **What a command line does to files.**  `setting` is what the user wants to see of the log. -/
def Tool.execute (tool : Tool) (program : Program) (setting : Option String) (args : List String)
    (fs : FileSystem) : Exit :=
  match tool.parse args with
  | none => tool.explain program args fs
  | some job => exitOf program job (Filter.parse setting) (job.perform fs)

end CommandLine

end Tabular

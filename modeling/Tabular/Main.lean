/-
**The program.**

The first argument names a tool and the others are the arguments of that tool.  The variable
`TABULAR_LOG` of the environment says which log lines are shown.

What a job makes of its input is decided by `Job.prepare`; what is left to do here is to read the
input, to write the output and the report in this order, and to print the messages.
-/

import Tabular.CommandLine.Exit

set_option autoImplicit false

namespace Tabular

namespace Main

open CommandLine
open Log (Event Filter)

/-- The program is called "tabular", and the places of its events begin with that name. -/
def program : Program where
  name := "tabular"
  placeOf := fun origin => "tabular." ++ origin.word

/-- Whether the system reports an error by this number.  Some of its calls negate the number. -/
def reports (code number : UInt32) : Bool := code == number || code == -number

/-- Why the system could not open a file. -/
def fileError (error : IO.Error) : FileError :=
  match error with
  | .noFileOrDirectory _ _ _ => .notFound
  | .inappropriateType _ code _ =>
      if reports code 21 then .isDirectory
      else if reports code 20 then .notADirectory
      else .other error.toString
  | .invalidArgument _ code _ =>
      if reports code 36 then .nameTooLong else .other error.toString
  | error => .other error.toString

/-- The bytes of the input. -/
def readSource (path : String) : IO (Except Failure Bytes) := do
  try
    return .ok (← IO.FS.readBinFile path).data.toList
  catch error =>
    return .error (Failure.ofInputError path (fileError error))

/-- Writes a file. -/
def writeFile (path : String) (bytes : Bytes) : IO (Except Failure Unit) := do
  try
    IO.FS.writeBinFile path bytes.toByteArray
    return .ok ()
  catch error =>
    return .error (.file (fileError error))

/-- Writes the output to its path, or prints it where no path is given. -/
def deliver (bytes : Bytes) : Option String → IO (Except Failure Unit)
  | some path => writeFile path bytes
  | none => do
      let stdout ← IO.getStdout
      stdout.write bytes.toByteArray
      stdout.flush
      return .ok ()

/-- Writes what a job has made, the output first. -/
def commit (job : Job) (product : Product) : IO (Except Failure Summary) := do
  match ← deliver product.output job.output, product.report with
  | .error failure, _ => return .error failure
  | .ok (), none => return .ok product.summary
  | .ok (), some (path, bytes) =>
      match ← writeFile path bytes with
      | .error failure => return .error failure
      | .ok () => return .ok product.summary

/-- Performs a job, tells about it and gives the exit code. -/
def perform (job : Job) (filter : Filter) : IO UInt8 := do
  let prepared := job.prepare (← readSource job.input)
  let result ← match prepared.result with
    | .error failure => pure (.error failure)
    | .ok product => commit job product
  for line in messages program job filter prepared.log result do
    IO.eprintln line
  return exitCode result

/-- Tells how the tools are called. -/
def showUsage (tools : List Tool) : IO UInt8 := do
  for tool in tools do
    IO.eprintln (tool.usage program.name)
  return usageCode

/-- Prints the help of a tool, which was asked for. -/
def showHelp (tool : Tool) : IO UInt8 := do
  for line in program.help tool do
    IO.println line
  return 0

/-- The program with its arguments. -/
def execute : List String → IO UInt8
  | [] => showUsage Tool.all
  | name :: args =>
      match Tool.ofName? name with
      | none => showUsage Tool.all
      | some tool =>
          match tool.parse args with
          | none => if tool.asksForHelp args then showHelp tool else showUsage [tool]
          | some job => do perform job (Filter.parse (← IO.getEnv "TABULAR_LOG"))

end Main

end Tabular

/-- The entry point of the program. -/
def main (args : List String) : IO UInt32 := do
  return (← Tabular.Main.execute args).toUInt32

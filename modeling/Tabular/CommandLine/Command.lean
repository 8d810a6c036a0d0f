/-
**What a command line asks for.**

The sorted arguments of a tool are turned into a job: the first positional argument is the input,
the others are columns or, for INSERT statements, the target table and the value of the partition.
A command line that is not of this form is a usage error, and nothing is done.

A request for help asks for no job either.  It is judged by the arguments before it, which must be
of the right form as far as they go, and what follows it is not looked at.

Main definitions:

* `Tabular.CommandLine.Arguments.toJob` — the job that sorted arguments ask for;
* `Tabular.CommandLine.Tool.parse` — **the job that a command line asks for**;
* `Tabular.CommandLine.Tool.asksForHelp` — whether a command line asks for help;
* `Tabular.CommandLine.Tool.usage` — how a tool is called.
-/

import Tabular.CommandLine.Arguments
import Tabular.Job

set_option autoImplicit false

namespace Tabular

namespace CommandLine

/-- A path, which may not be empty. -/
def parsePath (arg : String) : Option String := if arg.isEmpty then none else some arg

namespace Arguments

/-- The path that an option gives, if the option is there. -/
def path? (arguments : Arguments) (setting : Setting) : Option (Option String) :=
  (arguments.value? setting).mapM parsePath

/-- The delimiter, which is a comma unless another is given. -/
def delimiter? (arguments : Arguments) : Option UInt8 :=
  match arguments.value? .delimiter with
  | none => some Delimited.comma
  | some arg => (Delimited.namedDelimiter arg).toOption

/-- A job with the options that all tools have. -/
def jobOf (arguments : Arguments) (input : String) (task : Task) : Option Job := do
  return {
    task
    delimiter := ← arguments.delimiter?
    input := ← parsePath input
    output := ← arguments.path? .output }

/-- The statements that the options of `insert` ask for. -/
def inserter? (arguments : Arguments) (target : String) (partition : Option String) :
    Option Sql.Inserter := do
  let limit ← (arguments.value? .maxLength).mapM Number.parseCount
  return {
    target
    partition
    surrogate :=
      if (arguments.value? .noSurrogateKey).isSome then none else some Sql.defaultSurrogate
    limit := limit.getD Sql.defaultLimit }

/-- The names that the options of `melt` give to the new columns. -/
def labels (arguments : Arguments) : Melt.Labels where
  key := (arguments.value? .keyName).getD Melt.Labels.standard.key
  value := (arguments.value? .valueName).getD Melt.Labels.standard.value

/-- **The job that sorted arguments ask for.** -/
def toJob (arguments : Arguments) (tool : Tool) : Option Job :=
  match tool, arguments.positionals with
  | .select, input :: column :: columns => do
      let columns ← (column :: columns).mapM Number.parseInteger
      arguments.jobOf input (.select columns (← arguments.path? .report))
  | .melt, input :: column :: columns => do
      let columns ← (column :: columns).mapM Number.parseInteger
      arguments.jobOf input (.melt columns arguments.labels)
  | .insert, [input, target] => do
      arguments.jobOf input (.insert (← arguments.inserter? target none))
  | .insert, [input, target, partition] => do
      arguments.jobOf input (.insert (← arguments.inserter? target (some partition)))
  | _, _ => none

end Arguments

/-- **The job that a command line asks for.**  There is none if it is a usage error. -/
def Tool.parse (tool : Tool) (args : List String) : Option Job := do
  (← tool.gather none {} args).toJob tool

/-! ### Asking for help -/

/-- Whether an argument asks for help.  Behind the letter anything may follow. -/
def isHelp (arg : String) : Bool :=
  match arg.toList with
  | '-' :: 'h' :: _ => true
  | cs => cs == "--help".toList

/-- Whether positional arguments may begin a command line. -/
def Tool.admits (tool : Tool) : List String → Bool
  | [] => true
  | input :: more =>
      (parsePath input).isSome &&
        match tool with
        | .select => more.all fun column => (Number.parseInteger column).isSome
        | .melt => more.all fun column => (Number.parseInteger column).isSome
        | .insert => more.length ≤ 2

/-- Whether the values of all options can be read. -/
def Arguments.readable (arguments : Arguments) : Bool :=
  arguments.delimiter?.isSome && (arguments.path? .output).isSome &&
    (arguments.path? .report).isSome &&
    ((arguments.value? .maxLength).mapM Number.parseCount).isSome

/-- **Whether a command line asks for help**: with an argument that stands where an option may, and
behind others that nothing is wrong with so far. -/
def Tool.asksForHelp (tool : Tool) (args : List String) : Bool :=
  let before := args.takeWhile fun arg => !isHelp arg
  args.any isHelp && !before.contains "--" &&
    (tool.gather none {} before).any fun sorted =>
      tool.admits sorted.positionals && sorted.readable

/-! ### Calling the tools -/

/-- All tools. -/
def Tool.all : List Tool := [.select, .melt, .insert]

/-- The word that calls a tool. -/
def Tool.name : Tool → String
  | .select => "select"
  | .melt => "melt"
  | .insert => "insert"

/-- The tool that a word calls. -/
def Tool.ofName? (word : String) : Option Tool := Tool.all.find? fun tool => tool.name == word

/-- The arguments that a tool takes. -/
def Tool.synopsis : Tool → String
  | .select => "FILE COLUMN... [-o OUTPUT] [-d DELIMITER] [--report REPORT]"
  | .melt => "FILE COLUMN... [-o OUTPUT] [-d DELIMITER] [--key-name NAME] [--value-name NAME]"
  | .insert =>
      "FILE TABLE [PARTITION] [-o OUTPUT] [-d DELIMITER] [--no-surrogate-key] "
        ++ "[--max-length COUNT]"

/-- How a tool of a program is called. -/
def Tool.usage (program : String) (tool : Tool) : String :=
  "Usage: " ++ program ++ " " ++ tool.name ++ " " ++ tool.synopsis

end CommandLine

end Tabular

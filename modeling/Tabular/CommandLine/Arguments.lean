/-
**Sorting the arguments of a command line.**

The arguments of a tool are options and positional arguments in any order.  An option is written
with two hyphens and a name or, for some, with one hyphen and a letter; its value is the rest of
the argument or the argument after it.  Two hyphens alone end the options.  Each option may be
given once.

An argument that begins with a hyphen is an option and never a value, with one exception: where a
tool expects columns, that is after its first positional argument, a negative number is taken as
it stands.

Main definitions:

* `Tabular.CommandLine.Tool`, `Tabular.CommandLine.Setting` — the tools and their options;
* `Tabular.CommandLine.Word`, `Tabular.CommandLine.Tool.classify` — what one argument is;
* `Tabular.CommandLine.Arguments`, `Tabular.CommandLine.Tool.gather` — **the options and
  positional arguments of a command line**.
-/

import Tabular.Number

set_option autoImplicit false

namespace Tabular

namespace CommandLine

/-! ### Tools and their options -/

/-- The tools. -/
inductive Tool
  | select
  | melt
  | insert
  deriving DecidableEq, Repr

/-- The options. -/
inductive Setting
  | output
  | delimiter
  | report
  | keyName
  | valueName
  | maxLength
  | noSurrogateKey
  deriving DecidableEq, Repr

namespace Setting

/-- The name after two hyphens. -/
def name : Setting → String
  | .output => "output"
  | .delimiter => "delimiter"
  | .report => "report"
  | .keyName => "key-name"
  | .valueName => "value-name"
  | .maxLength => "max-length"
  | .noSurrogateKey => "no-surrogate-key"

/-- The letter after one hyphen, if there is one. -/
def letter? : Setting → Option Char
  | .output => some 'o'
  | .delimiter => some 'd'
  | _ => none

/-- Whether the option has a value. -/
def hasValue : Setting → Bool
  | .noSurrogateKey => false
  | _ => true

end Setting

/-- The options of a tool.  A request for help is none of them. -/
def Tool.settings : Tool → List Setting
  | .select => [.output, .delimiter, .report]
  | .melt => [.output, .delimiter, .keyName, .valueName]
  | .insert => [.output, .delimiter, .maxLength, .noSurrogateKey]

/-- Whether a tool expects columns after `taken` positional arguments. -/
def Tool.expectsColumns (tool : Tool) (taken : Nat) : Bool :=
  match tool with
  | .select => 0 < taken
  | .melt => 0 < taken
  | .insert => false

/-! ### One argument -/

/-- What an argument is. -/
inductive Word
  /-- A positional argument, or the value of the option before it. -/
  | plain (value : String)
  /-- An option, with its value if that is part of the argument. -/
  | setting (setting : Setting) (value : Option String)
  | endOfSettings
  deriving DecidableEq, Repr

/-- The option written with two hyphens and these characters. -/
def Tool.longSetting? (tool : Tool) (cs : List Char) : Option Word := do
  let setting ← tool.settings.find? fun s => s.name.toList == cs.takeWhile (· != '=')
  match cs.dropWhile (· != '=') with
  | [] => some (.setting setting none)
  | _ :: value => if setting.hasValue then some (.setting setting (String.ofList value)) else none

/-- The option written with one hyphen, a letter, and these characters. -/
def Tool.shortSetting? (tool : Tool) (letter : Char) (cs : List Char) : Option Word := do
  let setting ← tool.settings.find? fun s => s.letter? == some letter
  match cs with
  | [] => some (.setting setting none)
  | '=' :: value => some (.setting setting (String.ofList value))
  | value => some (.setting setting (String.ofList value))

/-- **What an argument is** when `taken` positional arguments came before it, unless it is an
option that the tool does not have. -/
def Tool.classify (tool : Tool) (taken : Nat) (arg : String) : Option Word :=
  match arg.toList with
  | ['-', '-'] => some .endOfSettings
  | '-' :: '-' :: cs => tool.longSetting? cs
  | '-' :: c :: cs =>
      if tool.expectsColumns taken && Number.isNumeric (c :: cs) then some (.plain arg)
      else tool.shortSetting? c cs
  | _ => some (.plain arg)

/-! ### All arguments -/

/-- The arguments of a command line, sorted. -/
structure Arguments where
  /-- The positional arguments in order. -/
  positionals : List String := []
  /-- The options with their values, which are empty for those that have none. -/
  settings : List (Setting × String) := []
  deriving DecidableEq, Repr

namespace Arguments

/-- The value of an option, if it is given. -/
def value? (arguments : Arguments) (setting : Setting) : Option String :=
  arguments.settings.lookup setting

/-- Adds an option, unless it is there already. -/
def set? (arguments : Arguments) (setting : Setting) (value : String) : Option Arguments :=
  if (arguments.value? setting).isSome then none
  else some { arguments with settings := (setting, value) :: arguments.settings }

/-- Adds positional arguments. -/
def push (arguments : Arguments) (values : List String) : Arguments :=
  { arguments with positionals := arguments.positionals ++ values }

end Arguments

/-- **Sorts the arguments of a command line.**  `pending` is an option that waits for its value,
and `sorted` holds the arguments that came before. -/
def Tool.gather (tool : Tool) : Option Setting → Arguments → List String → Option Arguments
  | none, sorted, [] => some sorted
  | some _, _, [] => none
  | pending, sorted, arg :: args =>
      match tool.classify sorted.positionals.length arg, pending with
      | some (.plain value), none => gather tool none (sorted.push [value]) args
      | some (.plain value), some setting => do gather tool none (← sorted.set? setting value) args
      | some (.setting setting (some value)), none => do
          gather tool none (← sorted.set? setting value) args
      | some (.setting setting none), none =>
          if setting.hasValue then gather tool (some setting) sorted args
          else do gather tool none (← sorted.set? setting "") args
      | some .endOfSettings, none => some (sorted.push args)
      | some _, some _ => none
      | none, _ => none

end CommandLine

end Tabular

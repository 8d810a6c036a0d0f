/-
**Events and their lines.**

What a job does is told as events.  An event says which part of a program tells it, how much it
matters and what happened, with details that have names.

Main definitions:

* `Tabular.Log.Level`, `Tabular.Log.Origin` — how much an event matters and who tells it;
* `Tabular.Log.Event` — **events**;
* `Tabular.Log.Event.line` — the line for an event.
-/

set_option autoImplicit false

namespace Tabular

namespace Log

/-- How much an event matters. -/
inductive Level
  | error
  | warn
  | info
  | debug
  | trace
  deriving DecidableEq, Repr

namespace Level

/-- The place of a level when the weightiest come first. -/
def rank : Level → Nat
  | .error => 1
  | .warn => 2
  | .info => 3
  | .debug => 4
  | .trace => 5

/-- The name of a level, filled up to five characters. -/
def label : Level → String
  | .error => "ERROR"
  | .warn => " WARN"
  | .info => " INFO"
  | .debug => "DEBUG"
  | .trace => "TRACE"

end Level

/-- The part of a program that tells an event. -/
inductive Origin
  | reader
  | projection
  | melt
  | insert
  | job
  deriving DecidableEq, Repr

/-- A word for a part of a program. -/
def Origin.word : Origin → String
  | .reader => "reader"
  | .projection => "projection"
  | .melt => "melt"
  | .insert => "insert"
  | .job => "job"

/-- **Something to tell.** -/
structure Event where
  origin : Origin
  level : Level
  message : String
  /-- Details, by name. -/
  fields : List (String × String) := []
  deriving DecidableEq, Repr

namespace Event

/-- The line for an event. -/
def line (event : Event) : String :=
  event.fields.foldl (fun line (name, value) => line ++ " " ++ name ++ "=" ++ value)
    (event.level.label ++ " " ++ event.message)

/-- The name that the message has among the details. -/
def messageName : String := "message"

/-- Whether an event has a detail of this name. -/
def hasField (event : Event) (name : String) : Bool :=
  name == messageName || event.fields.any fun field => field.1 == name

end Event

end Log

end Tabular

/-
**Which events are shown.**

A user's setting is a list of directives with commas between them.  Of those that are about an
event, the one that takes precedence over the others decides whether the event is shown, and an
event that no directive is about is hidden.  Without a setting, or with one that holds anything
but directives, warnings and errors are shown.

Main definitions:

* `Tabular.Log.Filter`, `Tabular.Log.Filter.parse` — filters, and **the filter that a setting asks
  for**;
* `Tabular.Log.Filter.shows` — whether an event is shown;
* `Tabular.Log.Filter.lines` — the lines that are shown.
-/

import Tabular.Log.Directive

set_option autoImplicit false

namespace Tabular

namespace Log

/-- Which events are shown. -/
structure Filter where
  /-- What is said about them. -/
  directives : List Directive
  deriving DecidableEq, Repr

namespace Filter

/-- Shows events of all places up to a level. -/
def upTo (level : Level) : Filter := ⟨[{ verbosity := level.rank }]⟩

/-- Shows warnings and errors. -/
def standard : Filter := upTo .warn

/-- **The filter that a user's setting asks for.**  A setting without directives shows errors. -/
def parse : Option String → Filter
  | none => standard
  | some setting =>
      let parts := (setting.toList.splitOn ',').filter fun part => !part.isEmpty
      match parts.mapM Directive.parse with
      | none => standard
      | some [] => upTo .error
      | some directives => ⟨directives⟩

/-- The directive that decides about an event from a place. -/
def decisive? (filter : Filter) (place : String) (event : Event) : Option Directive :=
  (filter.directives.filter fun directive => directive.concerns place event).foldl
    (fun best directive =>
      match best with
      | none => some directive
      | some earlier => some (if directive.overrides earlier then directive else earlier))
    none

/-- **Whether an event from a place is shown.** -/
def shows (filter : Filter) (place : String) (event : Event) : Bool :=
  match filter.decisive? place event with
  | none => false
  | some directive => event.level.rank ≤ directive.verbosity

/-- The lines that a filter shows, where `placeOf` names the parts of a program. -/
def lines (filter : Filter) (placeOf : Origin → String) (events : List Event) : List String :=
  (events.filter fun event => filter.shows (placeOf event.origin) event).map Event.line

end Filter

end Log

end Tabular

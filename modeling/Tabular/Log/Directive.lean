/-
**Directives on the log.**

A directive says up to which level events are shown.  It may be about all events, about those of
places whose names begin in some way, about those with a detail of some name, or about both:

* `debug` shows all events up to that level, and `4` does the same;
* `name` shows all events from places whose names begin so;
* `name=debug` shows their events up to a level;
* `name[{detail}]=debug` shows those of them that have a detail.

An activity may be named in the brackets too, and a value of a detail, which is a number or a
pattern.  Such a directive is about events that happen within that activity, and there are none.

Main definitions:

* `Tabular.Log.Subject`, `Tabular.Log.Directive` — what a directive says;
* `Tabular.Log.Directive.parse` — **the directive that characters stand for**;
* `Tabular.Log.Directive.concerns` — whether a directive is about an event.
-/

import Tabular.Utf8
import Tabular.Number
import Tabular.Pattern.WellFormed
import Tabular.Log.Event

set_option autoImplicit false

namespace Tabular

namespace Log

/-! ### Verbosity -/

/-- The highest rank of the events that are shown. -/
abbrev Verbosity := Nat

namespace Verbosity

/-- Shows nothing. -/
def silent : Verbosity := 0

/-- Shows everything. -/
def full : Verbosity := Level.rank .trace

/-- The verbosity that a word or a number stands for. -/
def parse (cs : List Char) : Option Verbosity :=
  match (String.ofList cs).toLower with
  | "off" => some silent
  | "error" => some (Level.rank .error)
  | "warn" => some (Level.rank .warn)
  | "info" => some (Level.rank .info)
  | "debug" => some (Level.rank .debug)
  | "trace" => some full
  | word => (Number.parseCount word).filter fun n => n ≤ full

/-- The verbosity after the equality sign of a directive, which may be left out. -/
def parseLevel (cs : List Char) : Option Verbosity := if cs.isEmpty then some full else parse cs

end Verbosity

/-! ### Directives -/

/-- Which events of a place a directive is about. -/
inductive Subject
  | all
  /-- Those with a detail of this name. -/
  | field (name : String)
  /-- Those within an activity, of which there are none. -/
  | activity
  deriving DecidableEq, Repr

/-- Whether a subject is as special as another.  A detail is more special than none, and of two
details the later in the alphabet. -/
def Subject.refines : Subject → Subject → Bool
  | .field name, .field other => decide (other ≤ name)
  | .all, .field _ => false
  | _, _ => true

/-- What is shown of some events. -/
structure Directive where
  /-- How the names of the places begin. -/
  target : String := ""
  /-- Which events of these places are meant. -/
  subject : Subject := .all
  /-- What is shown of them. -/
  verbosity : Verbosity
  deriving DecidableEq, Repr

namespace Directive

/-- Whether a directive is about an event from a place. -/
def concerns (directive : Directive) (place : String) (event : Event) : Bool :=
  directive.target.toList.isPrefixOf place.toList &&
    match directive.subject with
    | .all => true
    | .field name => event.hasField name
    | .activity => false

/-- **Whether a directive takes precedence over an earlier one** where both are about an event:
the longer target wins, then the more special subject. -/
def overrides (directive earlier : Directive) : Bool :=
  earlier.target.length < directive.target.length ||
    (earlier.target.length == directive.target.length &&
      directive.subject.refines earlier.subject)

/-! ### The text of a directive -/

/-- The characters without the blanks at both ends. -/
def trim (cs : List Char) : List Char :=
  ((cs.dropWhile isBlank).reverse.dropWhile isBlank).reverse

/-- The characters that take the bytes from `start` on, as many as `size`, unless some of these
bytes are only a part of a character. -/
def slice? (cs : List Char) (start size : Nat) : Option (List Char) :=
  (Utf8.decode? (((Utf8.encode (String.ofList cs)).drop start).take size)).map String.toList

/-- The number of bytes that characters take. -/
def byteCount (cs : List Char) : Nat := (String.ofList cs).utf8ByteSize

/-- What is read where `part` stands behind `before` in a directive without its blanks.  The place
is counted from the beginning of the whole text, blanks included. -/
def piece? (text before part : List Char) : Option (List Char) :=
  slice? text (byteCount before) (byteCount part)

/-- What is read behind `before`, up to the end. -/
def remainder? (text before : List Char) : Option (List Char) :=
  slice? text (byteCount before) (byteCount text)

/-! ### Reading directives -/

/-- Whether a directive may begin with a character, an opening bracket apart. -/
def canBegin (c : Char) : Bool :=
  isAlphanumeric c || c == '-' || c == ':' || c == '_'

/-- Whether characters are the value of a detail. -/
def isValue (cs : List Char) : Bool := Number.isReal cs || Pattern.isPattern cs

/-- The subject that is given by a detail, perhaps with a value.  `isFree` says whether no
activity is named. -/
def parseDetail (isFree : Bool) (cs : List Char) : Option Subject :=
  match cs.splitOn '=' with
  | _ :: value :: _ => if isValue value then some .activity else none
  | _ =>
      if cs.isEmpty then none
      else if isFree then some (.field (String.ofList cs))
      else some .activity

/-- The subject in brackets behind the name of the places, and the text up to the closing bracket.
`inner` is what follows the opening bracket. -/
def parseSubject (text name inner : List Char) : Option (Subject × List Char) :=
  let activity := inner.takeWhile fun c => c != ']' && c != '\x7b'
  let before := name ++ '[' :: activity
  match inner.drop activity.length with
  | ']' :: _ => some (.activity, before ++ [']'])
  | '\x7b' :: inner =>
      let detail := inner.takeWhile (· != '\x7d')
      match inner.drop detail.length with
      | '\x7d' :: ']' :: _ => do
          let subject ← parseDetail activity.isEmpty (← piece? text (before ++ ['\x7b']) detail)
          return (subject, before ++ '\x7b' :: detail ++ ['\x7d', ']'])
      | _ => none
  | _ => none

/-- The directive that is given by a name alone, unless that is the word for a level. -/
def ofName (cs : List Char) : Directive :=
  match Verbosity.parse cs with
  | some verbosity => { verbosity }
  | none => { target := String.ofList cs, verbosity := .full }

/-- **The directive that characters stand for.**  The blanks around them have no meaning for its
form, but they belong to the text of its parts. -/
def parse (text : List Char) : Option Directive := do
  let body := trim text
  let first ← body.head?
  if first != '[' && !canBegin first then none
  let name := body.takeWhile fun c => c != '=' && c != '['
  if name = body then return ofName text
  let target := String.ofList (← piece? text [] name)
  let (subject, before) ← match body.drop name.length with
    | '[' :: inner => parseSubject text name inner
    | _ => some (.all, name)
  let verbosity ← match body.drop before.length with
    | [] => some Verbosity.full
    | '=' :: _ => do Verbosity.parseLevel (← remainder? text (before ++ ['=']))
    | _ => none
  return { target, subject, verbosity }

end Directive

end Log

end Tabular

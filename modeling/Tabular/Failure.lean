/-
**Why a job fails.**

A job is abandoned when its input does not exist or holds no table, when a melt is refused, or when
a file cannot be opened.  Columns that a projection does not find are no failures.

Main definitions:

* `Tabular.Failure` — the causes;
* `Tabular.Failure.message` — **the wording**;
* `Tabular.Failure.cause?` — the inner cause, which is also told on its own;
* `Tabular.Failure.isUserFault` — whether the user's request or table is at fault.
-/

import Tabular.Delimited.Parser
import Tabular.Melt.Partition
import Tabular.FileSystem

set_option autoImplicit false

namespace Tabular

/-- A cause that ends a job. -/
inductive Failure
  | inputNotFound (path : String)
  | melt (refusal : Melt.Refusal)
  | malformed (cause : Delimited.Malformed)
  | report (reason : String)
  | file (error : FileError)
  deriving DecidableEq, Repr

namespace Failure

/-- The inner cause, if the failure has one, in words. -/
def cause? : Failure → Option String
  | .inputNotFound _ => none
  | .melt _ => none
  | .malformed cause => some cause.text
  | .report reason => some reason
  | .file error => some error.text

/-- **The failure in words.** -/
def message : Failure → String
  | .inputNotFound path => "Input file not found: " ++ path
  | .melt refusal => refusal.message
  | .malformed cause => "Invalid delimited input: " ++ cause.text
  | .report reason => "Failed to write report: " ++ reason
  | .file error => "I/O error: " ++ error.text

/-- Whether the user's request or the shape of the table is at fault, rather than a file. -/
def isUserFault : Failure → Bool
  | .inputNotFound _ => false
  | .melt _ => true
  | .malformed _ => true
  | .report _ => false
  | .file _ => false

end Failure

end Tabular

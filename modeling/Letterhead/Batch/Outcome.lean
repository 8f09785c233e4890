import Letterhead.Batch.Verdict
import Letterhead.Tree.Disk

/-
  Outcomes: what a batch did with a file, with the texts that tell what was or would be altered.
-/

namespace Letterhead

open Letterhead.Tree

/-- Why a file cannot be read or written. -/
inductive FileError where
  | fault (path : Path) (cause : Fault)
  | refused (reason : String)
  deriving DecidableEq, Repr

def FileError.message : FileError → String
  | fault path cause => cause.message path
  | refused reason => reason

/-- An altered document, and whether it was written to its file. -/
structure Change where
  action : Action
  before : Text
  updated : Text
  written : Bool
  deriving DecidableEq, Repr

/-- What happened to a file. -/
inductive Event where
  | unfit (reason : Unfit)
  | upToDate (before : Text)
  | skipped (before : Text)
  | changed (change : Change)
  | failed (cause : FileError)
  deriving DecidableEq, Repr

/-- A file with what happened to it. -/
structure Outcome where
  path : Path
  event : Event
  deriving DecidableEq, Repr

namespace Outcome

/-- The verdict on a file. A skipped or failed one keeps its header, so it counts as one that
needed nothing. -/
def verdict (o : Outcome) : Verdict :=
  match o.event with
  | .unfit reason => .unfit reason
  | .changed c => if c.action = .remove then .removed else .applied
  | .upToDate _ | .skipped _ | .failed _ => .upToDate

/-- The altered document, if the file was or would be altered. -/
def change? (o : Outcome) : Option Change :=
  match o.event with
  | .changed c => some c
  | _ => none

/-- The text of the document before the batch, if it was read. -/
def before? (o : Outcome) : Option Text :=
  match o.event with
  | .upToDate s | .skipped s => some s
  | .changed c => some c.before
  | .unfit _ | .failed _ => none

/-- Why the file could not be written. -/
def error? (o : Outcome) : Option FileError :=
  match o.event with
  | .failed cause => some cause
  | _ => none

/-- Whether the file was left alone because its header is not valid. -/
def isSkipped (o : Outcome) : Bool :=
  match o.event with
  | .skipped _ => true
  | _ => false

end Outcome
end Letterhead

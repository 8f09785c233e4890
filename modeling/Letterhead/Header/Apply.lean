import Letterhead.Header.Plan
import Letterhead.Buffer.Basic

/-
  Applying a plan to a buffer. Deletion and insertion are one unit: when the buffer refuses one of
  them the document is put back as it was, and the error tells when that fails too.
-/

namespace Letterhead

/-- Why a plan is not carried out. -/
inductive ApplyError where
  | changedSince
  | refused (action : Action) (cause : BufferError) (restored : Bool)
  | unreadable (cause : BufferError)
  | unwritable (cause : NoHeader)
  deriving DecidableEq, Repr

def ApplyError.message : ApplyError → String
  | changedSince => "document changed since its header plan was computed"
  | refused action cause restored =>
    s!"header {action.label} failed: {cause.message}" ++
      if restored then "" else " (document could not be restored)"
  | unreadable cause => cause.message
  | unwritable cause => cause.message

namespace Plan

/-- The two edits of a plan, of which each is left out when it has nothing to do. -/
def edit (p : Plan) (b : Buffer) : Except BufferError Unit × Buffer :=
  let start : Int := b.start + p.above.length
  let deletion :=
    if p.deleted = [] then (.ok (), b) else b.delete start (start + p.deleted.length)
  match deletion with
  | (.error e, b) => (.error e, b)
  | (.ok (), b) => if p.inserted = [] then (.ok (), b) else b.insert start p.inserted

/-- Put a document back; the result tells whether that worked. -/
def restore (document : Text) (b : Buffer) : Bool × Buffer :=
  match b.delete b.start b.text.length with
  | (.error _, b) => (false, b)
  | (.ok (), b) =>
    match b.insert b.start document with
    | (.error _, b) => (false, b)
    | (.ok (), b) => (true, b)

/-- Carry out a plan on the document that it was made for. -/
def apply (p : Plan) (b : Buffer) : Except ApplyError Unit × Buffer :=
  if !p.changes then (.ok (), b)
  else
    match b.document with
    | .error e => (.error (.unreadable e), b)
    | .ok document =>
      if document ≠ p.source then (.error .changedSince, b)
      else
        match p.edit b with
        | (.ok (), b) => (.ok (), b)
        | (.error e, b) =>
          let (restored, b) := restore document b
          (.error (.refused p.action e restored), b)

end Plan

namespace HeaderRule

/-- Whether both the header to write and the document of a buffer are as they should be. -/
def accepts (r : HeaderRule) (b : Buffer) : Except BufferError Bool :=
  if r.acceptsHeader then b.document.map r.acceptsDocument else .ok false

/-- Make the document of a buffer satisfy a rule. -/
def enforce (r : HeaderRule) (b : Buffer) : Except ApplyError Action × Buffer :=
  match b.document with
  | .error e => (.error (.unreadable e), b)
  | .ok document =>
    match r.planned document with
    | .error cause => (.error (.unwritable cause), b)
    | .ok p =>
      match p.apply b with
      | (.error e, b) => (.error e, b)
      | (.ok (), b) => (.ok p.action, b)

end HeaderRule
end Letterhead

import Letterhead.Batch.Dialogue
import Letterhead.Batch.Job

/-
  Batches: a run of a job over files. The state of a batch is what it has done so far: the tree as
  it is now, the outcomes in order, and the answers given about headers that are not valid. Each
  extension is decided once, whatever the case of its letters.
-/

namespace Letterhead

open Letterhead.Tree

/-- What a batch says besides its outcomes: a notice for those who ask for notices, or a warning
for everyone. -/
inductive Remark where
  | notice (n : Notice)
  | warning (text : String)
  deriving DecidableEq, Repr

/-- A decision about the files of an extension, which is kept as it was asked about. -/
structure Decision where
  extension : Text
  agreed : Bool
  deriving DecidableEq, Repr

/-- What ends a batch on the way because nothing accounts for it. -/
inductive BatchFault where
  | noPlace (cause : PathError)
  | definitions (cause : DefinitionError)
  deriving DecidableEq, Repr

def BatchFault.message : BatchFault → String
  | noPlace cause => cause.message
  | definitions cause => cause.message

/-- The state of a batch. `used` counts the definition files that were found on the way; a batch is
aborted when a question gets no answer. -/
structure Batch where
  disk : Disk
  dialogue : Dialogue := { input := [] }
  outcomes : List Outcome := []
  decisions : List Decision := []
  remarks : List Remark := []
  used : Nat := 0
  interrupted : Bool := false
  aborted : Bool := false
  fault : Option BatchFault := none

namespace Batch

/-- Whether a batch has ended on the way. -/
def isBroken (b : Batch) : Bool := b.aborted || b.fault.isSome

/-- End a batch by a fault. -/
def fail (b : Batch) (cause : BatchFault) : Batch := { b with fault := some cause }

/-- Say something. -/
def say (b : Batch) (rs : List Remark) : Batch := { b with remarks := b.remarks ++ rs }

def note (b : Batch) (ns : List Notice) : Batch := b.say (ns.map .notice)

/-- Record what happened to a file. -/
def record (b : Batch) (o : Outcome) : Batch := { b with outcomes := b.outcomes ++ [o] }

/-- The outcomes of files that were or would be altered. -/
def changed (b : Batch) : List Outcome := b.outcomes.filter fun o => o.verdict.isChange

/-- The outcomes of files that could not be written. -/
def failed (b : Batch) : List Outcome := b.outcomes.filter fun o => o.error?.isSome

/-- Whether a job wants its batch to stop before the next file. -/
def isCancelled (j : Job) (b : Batch) : Bool :=
  b.interrupted || j.cancels b.outcomes.length

/-- Interrupt a batch: it finishes the current file and stops. There is no batch to go on with when
it is interrupted again. -/
def interrupt (b : Batch) : Option Batch :=
  if b.interrupted then none
  else
    some ({ b with interrupted := true }.note
      [.warning "Interrupt received; finishing the current file"])

/-! ## Decisions -/

/-- The question about the files of an extension. -/
def question (ext : Text) : Text :=
  "The header for '".toList ++ ext ++
    "' files is not valid for their language. Apply it anyway?".toList

/-- The decision that was taken about an extension. -/
def decided? (b : Batch) (ext : Text) : Option Bool :=
  (b.decisions.find? fun a => Text.lower a.extension == Text.lower ext).map (·.agreed)

/-- Take a decision about an extension. -/
def decide (j : Job) (b : Batch) (ext : Text) : Option Bool × Batch :=
  match j.decider with
  | .rule agrees => (some (agrees ext), b)
  | .user =>
    match b.dialogue.ask (question ext) with
    | (some agreed, dialogue) => (some agreed, { b with dialogue })
    | (none, dialogue) => (none, { b with dialogue, aborted := true })

/-- Whether headers that are not valid are written to the files of an extension all the same. It is
unknown when the batch is aborted. -/
def agrees (j : Job) (b : Batch) (ext : Text) : Option Bool × Batch :=
  match b.decided? ext with
  | some agreed => (some agreed, b)
  | none =>
    match b.decide j ext with
    | (some agreed, b) => (some agreed, { b with decisions := b.decisions ++ [⟨ext, agreed⟩] })
    | (none, b) => (none, b)

end Batch
end Letterhead

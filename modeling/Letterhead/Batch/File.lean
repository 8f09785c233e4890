import Letterhead.Batch.Basic

/-
  One file of a batch: it is opened as a document, its header is checked, and the plan of its rule
  is carried out, in the tree only when the job applies changes.
-/

namespace Letterhead

open Letterhead.Tree

/-- The extension that stands for a file in decisions: the one that chose its template, else its
suffix, else its name. -/
def decisionExtension (defs : Option DefinitionSet) (p : Path) : Text :=
  match defs.bind fun s => s.matchExtension? p.name with
  | some ext => ext
  | none => if p.suffix = [] then p.name else p.suffix

/-- Whether the header of a document, and the comments it has now, are as its language wants. -/
def Document.isValid (doc : Document) : Bool :=
  doc.rule.acceptsHeader && doc.rule.acceptsDocument doc.file.text

namespace Batch

/-- Write a file. An interrupt that comes after a write stops the batch before the next file. -/
def write (j : Job) (b : Batch) (p : Path) (file : TextFile) : Except FileError Batch :=
  match j.writeRefusal p with
  | some reason => .error (.refused reason)
  | none =>
    match b.disk.write p file.toBytes with
    | .error cause => .error (.fault p cause)
    | .ok disk =>
      let b := { b with disk }
      .ok (if j.interruptsAfterWrite then b.interrupt.getD b else b)

/-- Carry out the plan of a document. -/
def carryOut (j : Job) (b : Batch) (p : Path) (doc : Document) : Except FileError Event × Batch :=
  let before := doc.file.text
  let plan := doc.rule.plan before
  if !plan.changes then (.ok (.upToDate before), b)
  else
    let updated := plan.result
    let change : Change := ⟨plan.action, before, updated, false⟩
    if j.applies && updated != before then
      match b.write j p { doc.file with text := updated } with
      | .error cause => (.error cause, b)
      | .ok b => (.ok (.changed { change with written := true }), b)
    else (.ok (.changed change), b)

/-- What happens to a file; nothing when the batch is aborted over it. -/
def handle (j : Job) (b : Batch) (defs : Option DefinitionSet) (p : Path) :
    Option (Except FileError Event) × Batch :=
  match j.openDocument b.disk defs p with
  | (.error reason, notices) => (some (.ok (.unfit reason)), b.note notices)
  | (.ok doc, notices) =>
    let b := b.note notices
    let proceed := fun (b : Batch) =>
      let (result, b) := b.carryOut j p doc
      (some result, b)
    if doc.isValid then proceed b
    else
      match b.agrees j (decisionExtension defs p) with
      | (some true, b) => proceed b
      | (some false, b) => (some (.ok (.skipped doc.file.text)), b)
      | (none, b) => (none, b)

/-- The notice about what happened to a file. -/
def eventNotices (o : Outcome) : List Notice :=
  let about := fun (text : String) => o.path.toString ++ ": " ++ text
  match o.event with
  | .changed _ => [.info (about o.verdict.words)]
  | .skipped _ => [.info (about "header is not valid for its language; skipped")]
  | .failed cause => [.error (about cause.message)]
  | .unfit _ | .upToDate _ => []

/-- Take what happened to a file down. -/
def conclude (b : Batch) (o : Outcome) : Batch := (b.note (eventNotices o)).record o

/-- Process a file. A file that cannot be written is an outcome like others. -/
def processFile (j : Job) (b : Batch) (defs : Option DefinitionSet) (p : Path) : Batch :=
  match b.handle j defs p with
  | (some (.ok event), b) => b.conclude ⟨p, event⟩
  | (some (.error cause), b) => b.conclude ⟨p, .failed cause⟩
  | (none, b) => b

end Batch
end Letterhead

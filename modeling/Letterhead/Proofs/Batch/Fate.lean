import Letterhead.Proofs.Batch.Frame
import Letterhead.Proofs.Batch.Mirror

/-
  What becomes of one file when a rule decides about headers that are not valid. The event and the
  bytes that are written depend on the tree, the definitions and what the rule says of the
  extension, and on nothing else that the batch has done (`fate`, `processFile_fate`). Of its memory
  the batch uses the decisions only, each of which is what the rule says (`Remembers`).
-/

namespace Letterhead

open Letterhead.Tree

/-- A file that is given to a batch, with the definitions for it, or none to remove its header. -/
structure GivenFile where
  path : Path
  defs : Option DefinitionSet

namespace GivenFile

/-- The extension that decides about the file when its header is not valid. -/
def extension (x : GivenFile) : Text := decisionExtension x.defs x.path

/-- The file is a document whose header is not valid. -/
def Fails (x : GivenFile) (j : Job) (d : Disk) : Prop :=
  ∃ doc, (j.openDocument d x.defs x.path).1 = .ok doc ∧ doc.isValid = false

end GivenFile

/-- What comes of the plan of a document, and the bytes that are written. -/
def Document.carried (doc : Document) (j : Job) (p : Path) : Event × Option Bytes :=
  let plan := doc.rule.plan doc.file.text
  if plan.changes && j.applies && plan.result != doc.file.text then
    match j.writeRefusal p with
    | some reason => (.failed (.refused reason), none)
    | none => (doc.event.asWritten, some (TextFile.toBytes { doc.file with text := plan.result }))
  else (doc.event, none)

/-- What becomes of a file in a tree, and the bytes that are written to it. -/
def fate (j : Job) (f : Text → Bool) (d : Disk) (x : GivenFile) : Event × Option Bytes :=
  match (j.openDocument d x.defs x.path).1 with
  | .error reason => (.unfit reason, none)
  | .ok doc =>
    if doc.isValid || f x.extension then doc.carried j x.path else (.skipped doc.file.text, none)

namespace Batch

variable {j : Job} {f : Text → Bool} {d : Disk} {b : Batch} {p : Path} {place : List Text}
  {doc : Document} {x : GivenFile}

/-! ## Carrying out a plan -/

/-- Whether a file can be written is known beforehand. -/
theorem write_cases (hplace : b.disk.filePlace? p = some place) (file : TextFile) :
    (∃ reason, j.writeRefusal p = some reason ∧ b.write j p file = .error (.refused reason)) ∨
      j.writeRefusal p = none ∧ ∃ b', b.write j p file = .ok b' := by
  cases hrefusal : j.writeRefusal p with
  | some reason => exact Or.inl ⟨reason, rfl, by rw [write, hrefusal]⟩
  | none => exact Or.inr ⟨rfl, _, by rw [write, hrefusal, Disk.write_of_filePlace? hplace]⟩

/-- To carry out a plan does what was said of it. -/
theorem carryOut_carried (hplace : b.disk.filePlace? p = some place) (doc : Document) :
    ∃ b' : Batch, b'.disk = (doc.carried j p).2.elim b.disk (b.disk.setFile place) ∧
      b'.outcomes = b.outcomes ∧ b'.decisions = b.decisions ∧
      (b.carryOut j p doc = (.ok (doc.carried j p).1, b') ∨
        ∃ cause, b.carryOut j p doc = (.error cause, b') ∧
          (doc.carried j p).1 = .failed cause) := by
  unfold carryOut Document.carried Document.event
  dsimp only
  cases hchanges : (doc.rule.plan doc.file.text).changes with
  | false => exact ⟨b, rfl, rfl, rfl, Or.inl rfl⟩
  | true =>
    rw [Bool.true_and]
    by_cases hwrites : (j.applies && (doc.rule.plan doc.file.text).result != doc.file.text) = true
    · rw [if_pos hwrites]
      simp only [Bool.not_true, Bool.false_eq_true, if_false, hwrites, if_true]
      rcases b.write_cases (j := j) hplace
          { doc.file with text := (doc.rule.plan doc.file.text).result } with
        ⟨reason, hrefusal, hwrite⟩ | ⟨hrefusal, b', hwrite⟩
      · rw [hrefusal, hwrite]
        exact ⟨b, rfl, rfl, rfl, Or.inr ⟨_, rfl, rfl⟩⟩
      · obtain ⟨hdisk, hsame, -, hdecisions⟩ := write_frame hplace hwrite
        rw [hrefusal, hwrite]
        exact ⟨b', hdisk, hsame.outcomes, hdecisions, Or.inl rfl⟩
    · rw [if_neg hwrites]
      simp only [Bool.not_true, Bool.false_eq_true, if_false, hwrites]
      exact ⟨b, rfl, rfl, rfl, Or.inl rfl⟩

/-! ## Decisions -/

/-- The extensions that were asked about, without the case of their letters. Each question leaves
one decision behind. -/
def asked (b : Batch) : List Text := b.decisions.map fun a => Text.lower a.extension

/-- The decisions of a batch are what a rule says, and each of them was taken once. -/
structure Remembers (f : Text → Bool) (b : Batch) : Prop where
  agreed : ∀ a ∈ b.decisions, a.agreed = f a.extension
  once : b.asked.Nodup

theorem decided?_eq_none_iff (b : Batch) (ext : Text) :
    b.decided? ext = none ↔ Text.lower ext ∉ b.asked := by
  rw [decided?, Option.map_eq_none_iff, List.find?_eq_none, asked, List.mem_map]
  simp

/-- With a rule that does not tell the case of letters apart, to remember an answer is as good as to
ask again. -/
theorem Remembers.agreement_fst (hb : Remembers f b)
    (hf : ∀ e e', Text.lower e = Text.lower e' → f e = f e') (ext : Text) :
    (b.agreement f ext).1 = f ext := by
  unfold agreement
  cases hdecided : b.decided? ext with
  | none => rfl
  | some agreed =>
    obtain ⟨a, hfind, rfl⟩ := Option.map_eq_some_iff.1 hdecided
    have hsame : Text.lower a.extension = Text.lower ext := by
      simpa using List.find?_some hfind
    exact (hb.agreed a (List.mem_of_find?_eq_some hfind)).trans (hf _ _ hsame)

/-- An extension is decided about once. -/
theorem agreement_snd (b : Batch) (ext : Text) :
    Text.lower ext ∈ b.asked ∧ (b.agreement f ext).2 = b.decisions ∨
      Text.lower ext ∉ b.asked ∧ (b.agreement f ext).2 = b.decisions ++ [⟨ext, f ext⟩] := by
  unfold agreement
  cases hdecided : b.decided? ext with
  | none => exact Or.inr ⟨(b.decided?_eq_none_iff ext).1 hdecided, rfl⟩
  | some agreed =>
    refine Or.inl ⟨?_, rfl⟩
    by_contra hnew
    rw [(b.decided?_eq_none_iff ext).2 hnew] at hdecided
    cases hdecided

/-! ## One file -/

/-- The plan of an opened document is carried out if the rule lets its header be applied. -/
theorem processFile_of_ok {ns : List Notice} (hdecider : j.decider = .rule f)
    (hopen : j.openDocument b.disk x.defs x.path = (.ok doc, ns))
    (hplace : b.disk.filePlace? x.path = some place) :
    let approval := b.approval f x.extension doc
    let done := if approval.1 = true then doc.carried j x.path
      else (.skipped doc.file.text, none)
    ∃ b' : Batch, b.processFile j x.defs x.path = b' ∧
      b'.outcomes = b.outcomes ++ [⟨x.path, done.1⟩] ∧
      b'.disk = done.2.elim b.disk (b.disk.setFile place) ∧ b'.decisions = approval.2 := by
  intro approval done
  let decided : Batch := { b.note ns with decisions := approval.2 }
  have hhandle := handle_eq_of_ok hdecider hopen
  refine ⟨_, rfl, ?_⟩
  rw [processFile]
  by_cases happroved : approval.1 = true
  · have hcarries : b.handle j x.defs x.path = (some (decided.carryOut j x.path doc).1,
        (decided.carryOut j x.path doc).2) := hhandle.trans (if_pos happroved)
    have hdone : done = doc.carried j x.path := if_pos happroved
    obtain ⟨b', hdisk, houtcomes, hdecisions, hcarry⟩ :=
      carryOut_carried (j := j) (b := decided) hplace doc
    rw [hcarries, hdone]
    obtain hcarry | ⟨cause, hcarry, hfailed⟩ := hcarry
    · rw [hcarry]
      exact ⟨congrArg (· ++ _) houtcomes, hdisk, hdecisions⟩
    · rw [hcarry, hfailed]
      exact ⟨congrArg (· ++ _) houtcomes, hdisk, hdecisions⟩
  · have hskips : b.handle j x.defs x.path = (some (.ok (.skipped doc.file.text)), decided) :=
      hhandle.trans (if_neg happroved)
    have hdone : done = (.skipped doc.file.text, none) := if_neg happroved
    rw [hskips, hdone]
    exact ⟨rfl, rfl, rfl⟩

/-- A batch whose decisions agree with the rule does with a file what becomes of it, and it asks
just when the header of the file is not valid and its extension was not decided about. -/
theorem processFile_fate (hdecider : j.decider = .rule f)
    (hopen : j.openDocument b.disk x.defs x.path = j.openDocument d x.defs x.path)
    (hplace : b.disk.filePlace? x.path = some place)
    (hagrees : (b.agreement f x.extension).1 = f x.extension) :
    ∃ b' : Batch, b.processFile j x.defs x.path = b' ∧
      b'.outcomes = b.outcomes ++ [⟨x.path, (fate j f d x).1⟩] ∧
      b'.disk = (fate j f d x).2.elim b.disk (b.disk.setFile place) ∧
      (b'.decisions = b.decisions ∧ (x.Fails j d → Text.lower x.extension ∈ b.asked) ∨
        x.Fails j d ∧ Text.lower x.extension ∉ b.asked ∧
          b'.decisions = b.decisions ++ [⟨x.extension, f x.extension⟩]) := by
  unfold fate GivenFile.Fails
  rw [← hopen]
  rcases hdocument : j.openDocument b.disk x.defs x.path with ⟨reason | doc, ns⟩
  · refine ⟨_, processFile_eq_of_error hdocument, rfl, rfl, Or.inl ⟨rfl, ?_⟩⟩
    rintro ⟨doc, hdoc, -⟩
    cases hdoc
  · obtain ⟨b', hprocess, houtcomes, hdisk, hdecisions⟩ :=
      processFile_of_ok hdecider hdocument hplace
    dsimp only
    cases hvalid : doc.isValid with
    | true =>
      have happroval : b.approval f x.extension doc = (true, b.decisions) := by
        rw [approval, if_pos hvalid]
      rw [happroval, if_pos rfl] at houtcomes hdisk
      rw [happroval] at hdecisions
      refine ⟨b', hprocess, houtcomes, hdisk, Or.inl ⟨hdecisions, ?_⟩⟩
      rintro ⟨doc', hdoc, hinvalid⟩
      obtain rfl := Except.ok.inj hdoc
      rw [hvalid] at hinvalid
      cases hinvalid
    | false =>
      have happroval : b.approval f x.extension doc = b.agreement f x.extension := by
        rw [approval, hvalid, if_neg Bool.false_ne_true]
      rw [happroval, hagrees] at houtcomes hdisk
      rw [happroval] at hdecisions
      refine ⟨b', hprocess, houtcomes, hdisk, ?_⟩
      obtain ⟨hknown, hsame⟩ | ⟨hnew, hmore⟩ := b.agreement_snd (f := f) x.extension
      · exact Or.inl ⟨hdecisions.trans hsame, fun _ => hknown⟩
      · exact Or.inr ⟨⟨doc, rfl, hvalid⟩, hnew, hdecisions.trans hmore⟩

end Batch
end Letterhead

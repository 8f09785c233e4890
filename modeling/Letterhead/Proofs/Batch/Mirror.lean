import Letterhead.Proofs.Batch.Reading
import Letterhead.Proofs.Batch.Replay
import Letterhead.Proofs.Definition.FileName
import Letterhead.Proofs.Header.Enforcement

/-
  Dry runs beside runs that write. At each moment a run that writes is in the state of the dry
  run, but for the changes, which are marked as written and replayed on the tree
  (`Batch.applied`). Over one file they stay together, when the file has not been altered before:
  both open the same document, the plan of the dry run is carried out, and a plan with changes
  does alter the text, so what is recorded as a change is written (`processFile_mirrors`).
-/

namespace Letterhead

open Letterhead.Tree

/-! ## Changes that are written -/

namespace Job

/-- The job that only tells what it would alter. -/
def dry (j : Job) : Job := { j with applies := false }

/-- The job that alters its files. -/
def writing (j : Job) : Job := { j with applies := true }

end Job

/-- What happens to a file when its change is written. -/
def Event.asWritten : Event → Event
  | .changed c => .changed { c with written := true }
  | e => e

def Outcome.asWritten (o : Outcome) : Outcome := { o with event := o.event.asWritten }

/-- What a dry run says about a document that may be altered. -/
def Document.event (doc : Document) : Event :=
  let plan := doc.rule.plan doc.file.text
  if plan.changes then .changed ⟨plan.action, doc.file.text, plan.result, false⟩
  else .upToDate doc.file.text

/-- The state of a run that writes, when the dry run is in a given one. -/
def Batch.applied (b : Batch) : Batch :=
  { b with disk := replay b.disk b.outcomes, outcomes := b.outcomes.map Outcome.asWritten }

namespace Outcome

/-- A change that a dry run records: it was not written, it alters the text of a file, and the
file is an entry of a directory and no definition file. -/
structure Fits (d : Disk) (o : Outcome) (c : Change) : Prop where
  unwritten : c.written = false
  alters : c.updated ≠ c.before
  no_definition : isDefinitionPath o.path.toText = false
  entry : ∃ (dir : Path) (name : Text), o.path = dir.child name ∧ name ≠ Path.up
  opened : ∃ place bytes file, d.filePlace? o.path = some place ∧ d.fileAt? place = some bytes ∧
    TextFile.ofBytes? bytes = some file ∧ c.before = file.text

variable {o : Outcome} {d : Disk} {place : List Text}

theorem place?_eq_some (h : o.place? d = some place) :
    ∃ c, o.change? = some c ∧ d.filePlace? o.path = some place :=
  Option.bind_eq_some_iff.1 h

theorem carryInto_of_unchanged (h : o.change? = none) (d : Disk) : o.carryInto d = d := by
  rw [carryInto, h]

theorem eventNotices_asWritten (o : Outcome) :
    Batch.eventNotices o.asWritten = Batch.eventNotices o := by
  obtain ⟨p, e⟩ := o
  cases e <;> rfl

/-- The files that were or would be altered are those with a change. -/
theorem verdict_iff (o : Outcome) :
    o.verdict = .applied ∨ o.verdict = .removed ↔ ∃ c, o.change? = some c := by
  obtain ⟨p, e⟩ := o
  cases e with
  | changed c => by_cases h : c.action = .remove <;> simp [verdict, change?, h]
  | _ => simp [verdict, change?]

theorem verdict_asWritten (o : Outcome) : o.asWritten.verdict = o.verdict := by
  obtain ⟨p, e⟩ := o
  cases e <;> rfl

theorem change?_asWritten (o : Outcome) :
    o.asWritten.change? = o.change?.map fun c => { c with written := true } := by
  obtain ⟨p, e⟩ := o
  cases e <;> rfl

end Outcome

/-! ## States of a dry run -/

/-- What holds of a dry run over a tree at each moment. -/
structure Batch.Sound (d : Disk) (b : Batch) : Prop where
  disk_eq : b.disk = d
  nodup : (changedPlaces d b.outcomes).Nodup
  fits : ∀ o ∈ b.outcomes, ∀ c, o.change? = some c → o.Fits d c

/-- No file below a path is among the altered ones. -/
def Fresh (d : Disk) (os : List Outcome) (p : Path) : Prop :=
  ∀ place ∈ changedPlaces d os, ¬ d.Under p place

/-- From outcomes `os` on, a dry run and a run that writes come through a path to the states `b`
and `a`. -/
structure Agree (d : Disk) (p : Path) (os : List Outcome) (b a : Batch) : Prop where
  applied : a = b.applied
  sound : b.Sound d
  inside : ∀ place ∈ changedPlaces d b.outcomes, place ∈ changedPlaces d os ∨ d.Under p place

/-- Two ways through a path agree wherever a dry run comes to the path. -/
def Mirrors (d : Disk) (p : Path) (dry writing : Batch → Batch) : Prop :=
  ∀ b : Batch, b.Sound d → Fresh d b.outcomes p →
    Agree d p b.outcomes (dry b) (writing b.applied)

namespace Batch

variable {d : Disk} {b : Batch} {p dir : Path} {j : Job}

theorem layout_applied (b : Batch) : b.applied.disk.layout = b.disk.layout :=
  layout_replay b.disk b.outcomes

theorem isCancelled_applied (b : Batch) : b.applied.isCancelled j = b.isCancelled j := by
  simp [isCancelled, applied]

theorem isDir_applied (b : Batch) (p : Path) : b.applied.disk.isDir p = b.disk.isDir p :=
  Disk.eq_of_layout_eq (f := (·.isDir p)) (·.isDir_layout p) b.layout_applied

theorem list_applied (b : Batch) (p : Path) : b.applied.disk.list p = b.disk.list p :=
  Disk.eq_of_layout_eq (f := (·.list p)) (·.list_layout p) b.layout_applied

theorem excludes_applied (b : Batch) (p : Path) :
    j.excludes b.applied.disk p = j.excludes b.disk p :=
  Disk.eq_of_layout_eq (f := (j.excludes · p)) (j.excludes_layout · p) b.layout_applied

theorem filePlace?_applied (b : Batch) (p : Path) :
    b.applied.disk.filePlace? p = b.disk.filePlace? p :=
  Disk.eq_of_layout_eq (f := (·.filePlace? p)) (·.filePlace?_layout p) b.layout_applied

/-- The file that a path leads to, if it leads to one, has not been altered. -/
def Untouched (b : Batch) (p : Path) : Prop :=
  ∀ place, b.disk.filePlace? p = some place → place ∉ changedPlaces b.disk b.outcomes

theorem untouched_of_fresh (h : Fresh b.disk b.outcomes p) : b.Untouched p :=
  fun place hplace hmem => h place hmem (Disk.under_of_filePlace? hplace)

theorem read_applied (h : b.Untouched p) : b.applied.disk.read p = b.disk.read p :=
  Disk.read_congr b.layout_applied fun place hplace => fileAt?_replay_of_not_mem (h place hplace)

theorem openDocument_applied (h : b.Untouched p) (defs : Option DefinitionSet) :
    j.openDocument b.applied.disk defs p = j.openDocument b.disk defs p :=
  j.openDocument_congr b.layout_applied (read_applied h) defs

theorem Sound.note (hb : b.Sound d) (ns : List Notice) : (b.note ns).Sound d :=
  ⟨hb.disk_eq, hb.nodup, hb.fits⟩

end Batch

namespace Agree

variable {d : Disk} {b a : Batch} {p : Path} {os os' : List Outcome}

theorem refl (hb : b.Sound d) : Agree d p b.outcomes b b.applied :=
  ⟨rfl, hb, fun _ => Or.inl⟩

/-- What was altered before counts as well when it is below the path. -/
theorem trans (h : Agree d p os' b a) (h' : ∀ place ∈ changedPlaces d os',
    place ∈ changedPlaces d os ∨ d.Under p place) : Agree d p os b a :=
  ⟨h.applied, h.sound, fun place hplace => (h.inside place hplace).elim (h' place) Or.inr⟩

end Agree

/-! ## One file -/

section File

variable {d : Disk} {b : Batch} {p : Path} {j : Job} {o : Outcome} {doc : Document}

/-- To take an outcome down keeps the runs together, when the run that writes carries it out. -/
theorem Agree.conclude (hb : b.Sound d) (hfits : ∀ c, o.change? = some c → o.Fits d c)
    (hfresh : Fresh d b.outcomes o.path) :
    Agree d o.path b.outcomes (b.conclude o)
      ({ b.applied with disk := o.carryInto b.applied.disk }.conclude o.asWritten) := by
  have houtcomes : (b.conclude o).outcomes = b.outcomes ++ [o] := rfl
  refine ⟨?_, ⟨hb.disk_eq, ?_, ?_⟩, ?_⟩
  · simp only [Batch.conclude, Batch.applied, Batch.record, Batch.note, Batch.say,
      Outcome.eventNotices_asWritten, replay_append, List.map_append, List.map_cons, List.map_nil]
  · rw [houtcomes, changedPlaces_append]
    cases hplace : o.place? d with
    | none => simpa using hb.nodup
    | some place =>
      obtain ⟨_, _, hfile⟩ := Outcome.place?_eq_some hplace
      have hnew : place ∉ changedPlaces d b.outcomes := fun hmem =>
        hfresh place hmem (Disk.under_of_filePlace? hfile)
      refine List.nodup_append.2 ⟨hb.nodup, by simp, fun x hx y hy => ?_⟩
      obtain rfl := List.mem_singleton.1 hy
      exact fun hxy => hnew (hxy ▸ hx)
  · rw [houtcomes]
    intro o' ho'
    rcases List.mem_append.1 ho' with ho' | ho'
    · exact hb.fits o' ho'
    · rw [List.mem_singleton.1 ho']
      exact hfits
  · rw [houtcomes, changedPlaces_append]
    intro place hmem
    refine (List.mem_append.1 hmem).imp_right fun hplace => ?_
    obtain ⟨_, _, hfile⟩ := Outcome.place?_eq_some (Option.mem_toList.1 hplace)
    exact Disk.under_of_filePlace? hfile

theorem Agree.conclude_unchanged (hb : b.Sound d) (ho : o.change? = none)
    (hwritten : o.asWritten = o) (hfresh : Fresh d b.outcomes o.path) :
    Agree d o.path b.outcomes (b.conclude o) (b.applied.conclude o) := by
  have h := Agree.conclude hb (fun c hc => by rw [ho] at hc; cases hc) hfresh
  rwa [Outcome.carryInto_of_unchanged ho, hwritten] at h

/-- What a rule says about an extension in a batch, with the decisions after that. -/
def Batch.agreement (f : Text → Bool) (b : Batch) (ext : Text) : Bool × List Decision :=
  match b.decided? ext with
  | some agreed => (agreed, b.decisions)
  | none => (f ext, b.decisions ++ [⟨ext, f ext⟩])

theorem Batch.agrees_eq {f : Text → Bool} (hdecider : j.decider = .rule f) (b : Batch)
    (ext : Text) :
    b.agrees j ext =
      (some (b.agreement f ext).1, { b with decisions := (b.agreement f ext).2 }) := by
  unfold agrees agreement
  cases b.decided? ext with
  | some agreed => rfl
  | none => simp only [decide, hdecider]

/-- Whether a rule lets the header of a document be applied, with the decisions after that. -/
def Batch.approval (f : Text → Bool) (b : Batch) (ext : Text) (doc : Document) :
    Bool × List Decision :=
  if doc.isValid then (true, b.decisions) else b.agreement f ext

theorem Batch.handle_eq_of_ok {defs : Option DefinitionSet} {f : Text → Bool} {ns : List Notice}
    (hdecider : j.decider = .rule f) (hopen : j.openDocument b.disk defs p = (.ok doc, ns)) :
    b.handle j defs p =
      let approval := b.approval f (decisionExtension defs p) doc
      let b := { b.note ns with decisions := approval.2 }
      if approval.1 = true then (some (b.carryOut j p doc).1, (b.carryOut j p doc).2)
      else (some (.ok (.skipped doc.file.text)), b) := by
  rw [handle, hopen]
  dsimp only
  by_cases hvalid : doc.isValid = true
  · rw [if_pos hvalid, approval, if_pos hvalid, if_pos rfl]
    rfl
  · rw [if_neg hvalid, agrees_eq hdecider, approval, if_neg hvalid]
    have hagreement : (b.note ns).agreement f (decisionExtension defs p) =
        b.agreement f (decisionExtension defs p) := rfl
    rw [hagreement]
    rcases b.agreement f (decisionExtension defs p) with ⟨_ | _, ds⟩ <;> rfl

theorem Batch.carryOut_dry (b : Batch) (p : Path) (doc : Document) :
    b.carryOut j.dry p doc = (.ok doc.event, b) := by
  simp only [carryOut, Document.event, Job.dry, Bool.false_and, Bool.false_eq_true, if_false]
  cases (doc.rule.plan doc.file.text).changes <;> rfl

/-- A run that writes carries out the event of the dry run. -/
theorem Batch.carryOut_writing_of_file {place : List Text} {bytes : Bytes}
    (hwrites : ∀ p, j.writeRefusal p = none) (hinterrupts : j.interruptsAfterWrite = false)
    (hlb : doc.rule.lineBreak = (Text.dominantBreak doc.file.text).text)
    (hplace : b.disk.filePlace? p = some place) (hbytes : b.disk.fileAt? place = some bytes)
    (hfile : TextFile.ofBytes? bytes = some doc.file) :
    b.carryOut j.writing p doc =
      (.ok doc.event.asWritten,
        { b with disk := (⟨p, doc.event⟩ : Outcome).carryInto b.disk }) := by
  cases hc : (doc.rule.plan doc.file.text).changes with
  | false => simp [carryOut, Document.event, hc, Event.asWritten, Outcome.carryInto,
      Outcome.change?]
  | true =>
    have hne := doc.rule.result_ne_of_changes doc.file.text hlb hc
    have hwrite := Disk.write_of_filePlace? hplace
      (TextFile.toBytes { doc.file with text := (doc.rule.plan doc.file.text).result })
    have hbind : (b.disk.fileAt? place).bind TextFile.ofBytes? = some doc.file := by
      rw [hbytes]
      exact hfile
    simp [carryOut, Document.event, hc, Event.asWritten, Outcome.carryInto, Outcome.change?,
      Job.writing, hne, write, hwrites, hinterrupts, hwrite, hplace, hbind]

theorem Batch.carryOut_writing {defs : Option DefinitionSet} {ns : List Notice} {b' : Batch}
    (hwrites : ∀ p, j.writeRefusal p = none) (hinterrupts : j.interruptsAfterWrite = false)
    (hopen : j.openDocument b.disk defs p = (.ok doc, ns)) (huntouched : b.Untouched p)
    (hdisk : b'.disk = b.applied.disk) :
    b'.carryOut j.writing p doc = (.ok doc.event.asWritten,
      { b' with disk := (⟨p, doc.event⟩ : Outcome).carryInto b.applied.disk }) := by
  obtain ⟨-, hlb, place, bytes, hplace, hbytes, hfile⟩ := j.of_openDocument_eq_ok hopen
  have hplace' : b'.disk.filePlace? p = some place := by
    rw [hdisk, filePlace?_applied, hplace]
  have hbytes' : b'.disk.fileAt? place = some bytes := by
    rw [hdisk, ← hbytes]
    exact fileAt?_replay_of_not_mem (huntouched place hplace)
  rw [carryOut_writing_of_file hwrites hinterrupts hlb hplace' hbytes' hfile, hdisk]

/-- What a run records about the file of a document, when it carries out the plan in a given
way. -/
theorem Batch.processFile_eq_of_ok {defs : Option DefinitionSet} {f : Text → Bool}
    {ns : List Notice} {e : Event} {disk : Disk} (hdecider : j.decider = .rule f)
    (hopen : j.openDocument b.disk defs p = (.ok doc, ns))
    (hcarry : ∀ b' : Batch, b'.disk = b.disk →
      b'.carryOut j p doc = (.ok e, { b' with disk })) :
    b.processFile j defs p =
      let approval := b.approval f (decisionExtension defs p) doc
      let b := { b.note ns with decisions := approval.2 }
      if approval.1 = true then Batch.conclude { b with disk } ⟨p, e⟩
      else b.conclude ⟨p, .skipped doc.file.text⟩ := by
  rw [processFile, handle_eq_of_ok hdecider hopen]
  dsimp only
  by_cases happroved : (b.approval f (decisionExtension defs p) doc).1 = true
  · rw [if_pos happroved, if_pos happroved, hcarry { b.note ns with decisions := _ } rfl]
  · rw [if_neg happroved, if_neg happroved]

theorem Batch.processFile_eq_of_error {defs : Option DefinitionSet} {reason : Unfit}
    {ns : List Notice} (hopen : j.openDocument b.disk defs p = (.error reason, ns)) :
    b.processFile j defs p = (b.note ns).conclude ⟨p, .unfit reason⟩ := by
  simp only [processFile, handle, hopen]

/-- The change that a dry run records for an opened document. -/
theorem Job.fits_of_openDocument_eq_ok {defs : Option DefinitionSet} {ns : List Notice}
    {dir : Path} {name : Text} {c : Change} (hname : name ≠ Path.up)
    (hopen : j.openDocument d defs (dir.child name) = (.ok doc, ns))
    (hc : (⟨dir.child name, doc.event⟩ : Outcome).change? = some c) :
    (⟨dir.child name, doc.event⟩ : Outcome).Fits d c := by
  obtain ⟨hdefinition, hlb, place, bytes, hplace, hbytes, hfile⟩ := j.of_openDocument_eq_ok hopen
  rw [Outcome.change?, Document.event] at hc
  by_cases hchanges : (doc.rule.plan doc.file.text).changes = true
  · simp only [hchanges, if_true, Option.some.injEq] at hc
    subst hc
    exact ⟨rfl, doc.rule.result_ne_of_changes doc.file.text hlb hchanges, hdefinition,
      ⟨dir, name, rfl, hname⟩, ⟨place, bytes, doc.file, hplace, hbytes, hfile, rfl⟩⟩
  · simp only [hchanges] at hc
    cases hc

/-- A run that writes does with a file what the dry run says. -/
theorem processFile_mirrors {defs : Option DefinitionSet} {f : Text → Bool} {dir : Path}
    {name : Text} (hdecider : j.decider = .rule f) (hwrites : ∀ p, j.writeRefusal p = none)
    (hinterrupts : j.interruptsAfterWrite = false) (hname : name ≠ Path.up) :
    Mirrors d (dir.child name) (·.processFile j.dry defs (dir.child name))
      (·.processFile j.writing defs (dir.child name)) := by
  intro b hb hfresh
  obtain rfl := hb.disk_eq
  have huntouched : b.Untouched (dir.child name) := Batch.untouched_of_fresh hfresh
  have hopen := Batch.openDocument_applied (j := j) huntouched defs
  dsimp only
  rcases hdoc : j.openDocument b.disk defs (dir.child name) with ⟨reason | doc, ns⟩
  · rw [Batch.processFile_eq_of_error (j := j.dry) hdoc,
      Batch.processFile_eq_of_error (j := j.writing) (hopen.trans hdoc)]
    exact Agree.conclude_unchanged (b := b.note ns) (o := ⟨_, .unfit reason⟩) (hb.note ns) rfl rfl
      hfresh
  · have hdry : ∀ b' : Batch, b'.disk = b.disk → b'.carryOut j.dry (dir.child name) doc =
        (.ok doc.event, { b' with disk := b.disk }) := fun b' h' => by
      rw [Batch.carryOut_dry, ← h']
    have hwriting : ∀ b' : Batch, b'.disk = b.applied.disk → _ := fun b' h' =>
      Batch.carryOut_writing hwrites hinterrupts hdoc huntouched h'
    rw [Batch.processFile_eq_of_ok (j := j.dry) hdecider hdoc hdry,
      Batch.processFile_eq_of_ok (j := j.writing) hdecider (hopen.trans hdoc) hwriting]
    dsimp only
    have happroval : b.applied.approval f (decisionExtension defs (dir.child name)) doc =
      b.approval f (decisionExtension defs (dir.child name)) doc := rfl
    rw [happroval]
    generalize b.approval f (decisionExtension defs (dir.child name)) doc = approval
    have hsound : ({ b.note ns with decisions := approval.2 } : Batch).Sound b.disk :=
      ⟨hb.disk_eq, hb.nodup, hb.fits⟩
    by_cases happroved : approval.1 = true
    · rw [if_pos happroved, if_pos happroved]
      exact Agree.conclude (o := ⟨_, doc.event⟩) hsound
        (fun c hc => j.fits_of_openDocument_eq_ok hname hdoc hc) hfresh
    · rw [if_neg happroved, if_neg happroved]
      exact Agree.conclude_unchanged (o := ⟨_, .skipped doc.file.text⟩) hsound rfl rfl hfresh

end File

end Letterhead

import Letterhead.Proofs.Batch.Reading
import Letterhead.Proofs.Definition.FileName

/-
  What work on one file leaves of a batch. To carry out a plan sets the bytes of the file, if it
  does anything to the tree, and to decide about an extension only asks and remembers. So to
  process a file touches no definition file, and it records one outcome, or none when it aborts
  the batch (`processFile_frame`).
-/

namespace Letterhead

open Letterhead.Tree

/-! ## Trees -/

variable {d d' d'' : Disk} {p dir dir' : Path} {name name' : Text} {place place' : List Text}

/-- What becomes of a tree when a file that is no definition file is worked on. -/
def Edits (p : Path) (d d' : Disk) : Prop :=
  d' = d ∨ ∃ place bytes, d.filePlace? p = some place ∧ isDefinitionPath p.toText = false ∧
    d' = d.setFile place bytes

theorem Edits.layout_eq (h : Edits p d d') : d'.layout = d.layout := by
  obtain rfl | ⟨place, bytes, hplace, -, rfl⟩ := h
  · rfl
  · obtain ⟨_, -, hbytes⟩ := Disk.locate_of_filePlace? hplace
    exact Disk.layout_setFile (by simp [hbytes]) bytes

theorem Edits.fileAt?_eq (h : Edits p d d') (hne : d.filePlace? p ≠ some place) :
    d'.fileAt? place = d.fileAt? place := by
  obtain rfl | ⟨place', bytes, hplace, -, rfl⟩ := h
  · rfl
  · obtain ⟨_, -, hbytes⟩ := Disk.locate_of_filePlace? hplace
    refine Disk.fileAt?_setFile_of_ne (by simp [hbytes]) ?_ bytes
    rintro rfl
    exact hne hplace

/-- A definition file is not at the place of a file that is none. -/
theorem place_ne_of_definition (hlinks : d.root.linkCount = 0)
    (hname : Text.lower (Path.suffixOf name) = definitionExtension) (hup : name' ≠ Path.up)
    (hno : isDefinitionPath (dir'.child name').toText = false)
    (hplace : d.filePlace? (dir.child name) = some place)
    (hplace' : d.filePlace? (dir'.child name') = some place') : place ≠ place' := by
  have hup' : name ≠ Path.up := by
    rintro rfl
    exact absurd hname (by decide)
  obtain ⟨_, hlocate, -⟩ := Disk.locate_of_filePlace? hplace
  obtain ⟨_, hlocate', -⟩ := Disk.locate_of_filePlace? hplace'
  obtain ⟨top, _, -, rfl⟩ := Disk.place_of_locate_child hlinks hup' hlocate
  obtain ⟨top', _, -, rfl⟩ := Disk.place_of_locate_child hlinks hup hlocate'
  intro hsame
  obtain rfl : name = name' := List.singleton_inj.1 (List.append_inj' hsame rfl).2
  rw [isDefinitionPath_child hname] at hno
  cases hno

/-- Trees with one layout and the same definition files. -/
structure SameScopes (d d' : Disk) : Prop where
  layout_eq : d'.layout = d.layout
  read_eq : ∀ (dir : Path) (name : Text),
    Text.lower (Path.suffixOf name) = definitionExtension →
      d'.read (dir.child name) = d.read (dir.child name)

theorem SameScopes.refl (d : Disk) : SameScopes d d := ⟨rfl, fun _ _ _ => rfl⟩

theorem SameScopes.trans (h : SameScopes d d') (h' : SameScopes d' d'') : SameScopes d d'' :=
  ⟨h'.layout_eq.trans h.layout_eq,
    fun dir name hname => (h'.read_eq dir name hname).trans (h.read_eq dir name hname)⟩

theorem SameScopes.ownDefinitions_eq (h : SameScopes d d') (j : Job) (dir : Path) :
    ownDefinitions j d' dir = ownDefinitions j d dir :=
  ownDefinitions_congr j h.layout_eq (h.read_eq dir)

theorem Edits.sameScopes (hlinks : d.root.linkCount = 0) (hup : name ≠ Path.up)
    (h : Edits (dir.child name) d d') : SameScopes d d' := by
  refine ⟨h.layout_eq, fun dir' name' hname' => ?_⟩
  obtain rfl | ⟨place, bytes, hplace, hno, rfl⟩ := id h
  · rfl
  · refine Disk.read_congr h.layout_eq fun place' hplace' => ?_
    obtain ⟨_, -, hbytes⟩ := Disk.locate_of_filePlace? hplace
    exact Disk.fileAt?_setFile_of_ne (by simp [hbytes])
      (place_ne_of_definition hlinks hname' hup hno hplace' hplace) bytes

/-! ## Batches -/

namespace Batch

variable {b b' b'' : Batch} {j : Job}

/-- What does not change in a batch while a file is worked on: its outcomes so far, its count of
definition files and its fault. It is interrupted only where the job says so. -/
structure SameRun (j : Job) (b b' : Batch) : Prop where
  outcomes : b'.outcomes = b.outcomes
  used : b'.used = b.used
  fault : b'.fault = b.fault
  interrupted : j.interruptsAfterWrite = false → b'.interrupted = b.interrupted

theorem SameRun.refl (b : Batch) : SameRun j b b := ⟨rfl, rfl, rfl, fun _ => rfl⟩

theorem SameRun.trans (h : SameRun j b b') (h' : SameRun j b' b'') : SameRun j b b'' :=
  ⟨h'.outcomes.trans h.outcomes, h'.used.trans h.used, h'.fault.trans h.fault,
    fun hj => (h'.interrupted hj).trans (h.interrupted hj)⟩

theorem sameRun_note (b : Batch) (ns : List Notice) : SameRun j b (b.note ns) :=
  ⟨rfl, rfl, rfl, fun _ => rfl⟩

/-- To write a file sets its bytes and goes on with the batch. -/
theorem write_frame {file : TextFile} (hplace : b.disk.filePlace? p = some place)
    (h : b.write j p file = .ok b') :
    b'.disk = b.disk.setFile place file.toBytes ∧ SameRun j b b' ∧ b'.aborted = b.aborted ∧
      b'.decisions = b.decisions := by
  rw [write, Disk.write_of_filePlace? hplace] at h
  split at h
  · cases h
  · obtain rfl := Except.ok.inj h
    split
    next hinterrupts =>
      have hno : j.interruptsAfterWrite ≠ false := by simp [hinterrupts]
      unfold interrupt
      split
      · exact ⟨rfl, ⟨rfl, rfl, rfl, fun h => absurd h hno⟩, rfl, rfl⟩
      · exact ⟨rfl, ⟨rfl, rfl, rfl, fun h => absurd h hno⟩, rfl, rfl⟩
    next => exact ⟨rfl, ⟨rfl, rfl, rfl, fun _ => rfl⟩, rfl, rfl⟩

theorem carryOut_frame (doc : Document) (hplace : b.disk.filePlace? p = some place)
    (hname : isDefinitionPath p.toText = false) :
    Edits p b.disk (b.carryOut j p doc).2.disk ∧ SameRun j b (b.carryOut j p doc).2 ∧
      (b.carryOut j p doc).2.aborted = b.aborted := by
  simp only [carryOut]
  split
  · exact ⟨Or.inl rfl, .refl b, rfl⟩
  · split
    · split
      next => exact ⟨Or.inl rfl, .refl b, rfl⟩
      next hwrite =>
        obtain ⟨hdisk, hsame, haborted, -⟩ := write_frame hplace hwrite
        exact ⟨Or.inr ⟨place, _, hplace, hname, hdisk⟩, hsame, haborted⟩
    · exact ⟨Or.inl rfl, .refl b, rfl⟩

/-- To decide about an extension leaves the tree alone. The batch is aborted when there is no
answer, which the user alone can fail to give. -/
theorem agrees_frame (b : Batch) (ext : Text) :
    (b.agrees j ext).2.disk = b.disk ∧ SameRun j b (b.agrees j ext).2 ∧
      (b.agrees j ext).2.aborted = (b.aborted || (b.agrees j ext).1.isNone) ∧
      ((b.agrees j ext).1 = none → j.decider = .user) := by
  unfold agrees
  split
  · exact ⟨rfl, .refl b, (Bool.or_false _).symm, nofun⟩
  · unfold decide
    cases j.decider with
    | rule f => exact ⟨rfl, ⟨rfl, rfl, rfl, fun _ => rfl⟩, (Bool.or_false _).symm, nofun⟩
    | user =>
      dsimp only
      rcases b.dialogue.ask (question ext) with ⟨_ | agreed, dialogue⟩
      · exact ⟨rfl, ⟨rfl, rfl, rfl, fun _ => rfl⟩, (Bool.or_true _).symm, fun _ => rfl⟩
      · exact ⟨rfl, ⟨rfl, rfl, rfl, fun _ => rfl⟩, (Bool.or_false _).symm, nofun⟩

theorem handle_frame (b : Batch) (defs : Option DefinitionSet) (p : Path) :
    Edits p b.disk (b.handle j defs p).2.disk ∧ SameRun j b (b.handle j defs p).2 ∧
      (b.handle j defs p).2.aborted = (b.aborted || (b.handle j defs p).1.isNone) ∧
      ((b.handle j defs p).1 = none → j.decider = .user) := by
  unfold handle
  split
  · exact ⟨Or.inl rfl, b.sameRun_note _, (Bool.or_false _).symm, nofun⟩
  next doc ns hopen =>
    obtain ⟨hname, -, place, _, hplace, -, -⟩ := j.of_openDocument_eq_ok hopen
    have hcarry : ∀ b' : Batch, b'.disk = b.disk → SameRun j b b' → b'.aborted = b.aborted →
        Edits p b.disk (b'.carryOut j p doc).2.disk ∧ SameRun j b (b'.carryOut j p doc).2 ∧
          (b'.carryOut j p doc).2.aborted = (b.aborted || false) ∧
          (some (b'.carryOut j p doc).1 = none → j.decider = .user) := by
      intro b' hdisk hsame haborted
      have hplace' : b'.disk.filePlace? p = some place := hdisk ▸ hplace
      obtain ⟨hedits, hsame', haborted'⟩ := carryOut_frame (j := j) doc hplace' hname
      exact ⟨hdisk ▸ hedits, hsame.trans hsame', by rw [haborted', haborted, Bool.or_false], nofun⟩
    obtain ⟨hdisk, hsame, haborted, huser⟩ :=
      (b.note ns).agrees_frame (j := j) (decisionExtension defs p)
    dsimp only
    split
    · exact hcarry _ rfl (b.sameRun_note ns) rfl
    · generalize (b.note ns).agrees j (decisionExtension defs p) = agreed
        at hdisk hsame haborted huser
      obtain ⟨_ | _ | _, b'⟩ := agreed
      · exact ⟨Or.inl hdisk, (b.sameRun_note ns).trans hsame, haborted, fun _ => huser rfl⟩
      · exact ⟨Or.inl hdisk, (b.sameRun_note ns).trans hsame, haborted, nofun⟩
      · exact hcarry b' hdisk ((b.sameRun_note ns).trans hsame)
          (haborted.trans (Bool.or_false _))

/-- Nothing is written when the batch is aborted. -/
theorem disk_handle_of_none {defs : Option DefinitionSet} (h : (b.handle j defs p).1 = none) :
    (b.handle j defs p).2.disk = b.disk := by
  unfold handle at h ⊢
  split at h
  · cases h
  next doc ns hopen =>
    obtain ⟨hdisk, -⟩ := (b.note ns).agrees_frame (j := j) (decisionExtension defs p)
    dsimp only at h ⊢
    split at h
    · cases h
    next hvalid =>
      rw [if_neg hvalid]
      generalize (b.note ns).agrees j (decisionExtension defs p) = agreed at h hdisk ⊢
      obtain ⟨_ | _ | _, b'⟩ := agreed
      · exact hdisk
      · cases h
      · cases h

/-- To process a file records one outcome for it, or none when the user aborts the batch over
it. -/
theorem processFile_frame (b : Batch) (defs : Option DefinitionSet) (p : Path) :
    Edits p b.disk (b.processFile j defs p).disk ∧
      (b.processFile j defs p).used = b.used ∧ (b.processFile j defs p).fault = b.fault ∧
      (j.interruptsAfterWrite = false →
        (b.processFile j defs p).interrupted = b.interrupted) ∧
      ((∃ event, (b.processFile j defs p).outcomes = b.outcomes ++ [⟨p, event⟩]) ∧
          (b.processFile j defs p).aborted = b.aborted ∨
        (b.processFile j defs p).outcomes = b.outcomes ∧
          (b.processFile j defs p).aborted = true ∧ j.decider = .user) := by
  obtain ⟨hedits, hsame, haborted, huser⟩ := b.handle_frame (j := j) defs p
  unfold processFile
  generalize b.handle j defs p = handled at hedits hsame haborted huser ⊢
  obtain ⟨_ | cause | event, b'⟩ := handled
  · exact ⟨hedits, hsame.used, hsame.fault, hsame.interrupted,
      Or.inr ⟨hsame.outcomes, haborted.trans (Bool.or_true _), huser rfl⟩⟩
  · refine ⟨hedits, hsame.used, hsame.fault, hsame.interrupted, Or.inl ⟨⟨.failed cause, ?_⟩, ?_⟩⟩
    · exact congrArg (· ++ _) hsame.outcomes
    · exact haborted.trans (Bool.or_false _)
  · refine ⟨hedits, hsame.used, hsame.fault, hsame.interrupted, Or.inl ⟨⟨event, ?_⟩, ?_⟩⟩
    · exact congrArg (· ++ _) hsame.outcomes
    · exact haborted.trans (Bool.or_false _)

/-- The tree is left alone where no outcome is recorded. -/
theorem disk_processFile_of_outcomes_eq {defs : Option DefinitionSet}
    (h : (b.processFile j defs p).outcomes = b.outcomes) :
    (b.processFile j defs p).disk = b.disk := by
  obtain ⟨-, hsame, -⟩ := b.handle_frame (j := j) defs p
  have hdisk : (b.handle j defs p).1 = none → (b.handle j defs p).2.disk = b.disk :=
    disk_handle_of_none
  unfold processFile at h ⊢
  generalize b.handle j defs p = handled at h hsame hdisk ⊢
  have hrecords : ∀ o, (handled.2.conclude o).outcomes ≠ b.outcomes := fun o ho =>
    List.cons_ne_nil o [] (List.append_right_eq_self.1 (ho.trans hsame.outcomes.symm))
  obtain ⟨_ | cause | event, b'⟩ := handled
  · exact hdisk rfl
  · exact absurd h (hrecords _)
  · exact absurd h (hrecords _)

end Batch
end Letterhead

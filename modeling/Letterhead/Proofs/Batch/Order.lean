import Letterhead.Proofs.Batch.DryRun
import Letterhead.Proofs.Batch.Fate

/-
  The order of files. While a batch goes through different files, what becomes of a file depends
  neither on the files before it nor on what was decided about them (`Progress.step`). So the batch
  does the same with each file in every order, and it asks about the same extensions, each of them
  once, for files whose headers are not valid (`order_irrelevant`).
-/

namespace Letterhead

open Letterhead.Tree

/-- Process files, one after the other. -/
def Batch.processFiles (j : Job) (b : Batch) (xs : List GivenFile) : Batch :=
  xs.foldl (fun b x => b.processFile j x.defs x.path) b

variable {j : Job} {f : Text → Bool} {d : Disk} {b : Batch} {x : GivenFile}
  {done xs xs' : List GivenFile}

/-- A batch that began with the tree `d` and has processed some files. -/
structure Progress (j : Job) (f : Text → Bool) (d : Disk) (done : List GivenFile) (b : Batch) :
    Prop where
  layout_eq : b.disk.layout = d.layout
  outcomes : b.outcomes = done.map fun x => ⟨x.path, (fate j f d x).1⟩
  written : ∀ x ∈ done, ∀ place bytes, d.filePlace? x.path = some place →
    (fate j f d x).2 = some bytes → b.disk.fileAt? place = some bytes
  kept : ∀ place, (∀ x ∈ done, d.filePlace? x.path = some place → (fate j f d x).2 = none) →
    b.disk.fileAt? place = d.fileAt? place
  remembers : b.Remembers f
  failing : ∀ a ∈ b.decisions, ∃ x ∈ done, x.Fails j d ∧ x.extension = a.extension
  asks : ∀ x ∈ done, x.Fails j d → Text.lower x.extension ∈ b.asked

namespace Progress

theorem start (talk : Dialogue) : Progress j f d [] { disk := d, dialogue := talk } where
  layout_eq := rfl
  outcomes := rfl
  written := nofun
  kept _ _ := rfl
  remembers := ⟨nofun, List.nodup_nil⟩
  failing := nofun
  asks := nofun

/-! ## One more file -/

section Step

variable (h : Progress j f d done b)

include h

theorem filePlace?_eq (p : Path) : b.disk.filePlace? p = d.filePlace? p :=
  Disk.eq_of_layout_eq (f := (·.filePlace? p)) (·.filePlace?_layout p) h.layout_eq

/-- A file that was not processed yet is as it was. -/
theorem fileAt?_eq (hnew : ∀ y ∈ done, d.filePlace? y.path ≠ d.filePlace? x.path)
    {place : List Text} (hplace : d.filePlace? x.path = some place) :
    b.disk.fileAt? place = d.fileAt? place :=
  h.kept place fun y hy hsame => absurd (hsame.trans hplace.symm) (hnew y hy)

theorem openDocument_eq (hnew : ∀ y ∈ done, d.filePlace? y.path ≠ d.filePlace? x.path) :
    j.openDocument b.disk x.defs x.path = j.openDocument d x.defs x.path :=
  j.openDocument_congr h.layout_eq
    (Disk.read_congr h.layout_eq fun _ hplace => h.fileAt?_eq hnew hplace) x.defs

/-- The new contents of the tree. -/
theorem contents_step {b' : Batch} {place : List Text} (hplace : d.filePlace? x.path = some place)
    (hnew : ∀ y ∈ done, d.filePlace? y.path ≠ d.filePlace? x.path)
    (hdisk : b'.disk = (fate j f d x).2.elim b.disk (b.disk.setFile place)) :
    (∀ y ∈ done ++ [x], ∀ place' bytes, d.filePlace? y.path = some place' →
      (fate j f d y).2 = some bytes → b'.disk.fileAt? place' = some bytes) ∧
    ∀ place', (∀ y ∈ done ++ [x], d.filePlace? y.path = some place' → (fate j f d y).2 = none) →
      b'.disk.fileAt? place' = d.fileAt? place' := by
  obtain ⟨old, -, hold⟩ := Disk.locate_of_filePlace? hplace
  have hfile : b.disk.fileAt? place ≠ none := by
    rw [h.fileAt?_eq hnew hplace, hold]
    exact Option.some_ne_none old
  -- Every other place is as it was before the file.
  have hother : ∀ place', place' ≠ place → b'.disk.fileAt? place' = b.disk.fileAt? place' := by
    intro place' hne
    rw [hdisk]
    cases (fate j f d x).2 with
    | none => rfl
    | some bytes => exact Disk.fileAt?_setFile_of_ne hfile hne bytes
  refine ⟨fun y hy place' bytes hplace' hbytes => ?_, fun place' hnone => ?_⟩
  · rcases List.mem_append.1 hy with hy | hy
    · rw [hother place' fun hsame => hnew y hy (by rw [hplace', hsame, hplace])]
      exact h.written y hy place' bytes hplace' hbytes
    · obtain rfl := List.mem_singleton.1 hy
      obtain rfl : place = place' := Option.some.inj (hplace.symm.trans hplace')
      rw [hdisk, hbytes]
      exact Disk.fileAt?_setFile_self b.disk place bytes
  · rw [List.forall_mem_append] at hnone
    by_cases hsame : place' = place
    · rw [hdisk, hnone.2 x List.mem_cons_self (hplace.trans (congrArg some hsame.symm))]
      exact h.kept place' hnone.1
    · rw [hother place' hsame]
      exact h.kept place' hnone.1

/-- The new decisions. -/
theorem decisions_step {b' : Batch}
    (hdecisions : b'.decisions = b.decisions ∧ (x.Fails j d → Text.lower x.extension ∈ b.asked) ∨
      x.Fails j d ∧ Text.lower x.extension ∉ b.asked ∧
        b'.decisions = b.decisions ++ [⟨x.extension, f x.extension⟩]) :
    b'.Remembers f ∧
      (∀ a ∈ b'.decisions, ∃ y ∈ done ++ [x], y.Fails j d ∧ y.extension = a.extension) ∧
      ∀ y ∈ done ++ [x], y.Fails j d → Text.lower y.extension ∈ b'.asked := by
  have hfailing : ∀ a ∈ b.decisions, ∃ y ∈ done ++ [x], y.Fails j d ∧ y.extension = a.extension :=
    fun a ha =>
      let ⟨y, hy, hfails⟩ := h.failing a ha
      ⟨y, List.mem_append_left _ hy, hfails⟩
  obtain ⟨hsame, hknown⟩ | ⟨hfails, hnew, hmore⟩ := hdecisions
  · have hasked : b'.asked = b.asked := congrArg (List.map _) hsame
    refine ⟨⟨hsame ▸ h.remembers.agreed, hasked ▸ h.remembers.once⟩, hsame ▸ hfailing, ?_⟩
    rw [hasked, List.forall_mem_append, List.forall_mem_singleton]
    exact ⟨h.asks, hknown⟩
  · have hasked : b'.asked = b.asked ++ [Text.lower x.extension] := by
      rw [Batch.asked, hmore, List.map_append]
      rfl
    refine ⟨⟨?_, ?_⟩, ?_, ?_⟩
    · rw [hmore, List.forall_mem_append, List.forall_mem_singleton]
      exact ⟨h.remembers.agreed, rfl⟩
    · rw [hasked, List.nodup_append]
      refine ⟨h.remembers.once, List.pairwise_singleton _ _, fun e he e' he' => ?_⟩
      rw [List.mem_singleton.1 he']
      exact ne_of_mem_of_not_mem he hnew
    · rw [hmore, List.forall_mem_append, List.forall_mem_singleton]
      exact ⟨hfailing, x, List.mem_append_right _ List.mem_cons_self, hfails, rfl⟩
    · rw [hasked, List.forall_mem_append, List.forall_mem_singleton]
      exact ⟨fun y hy hfails => List.mem_append_left _ (h.asks y hy hfails),
        fun _ => List.mem_append_right _ List.mem_cons_self⟩

/-- To process one more file does with it what becomes of it in the tree of the beginning. -/
theorem step (hdecider : j.decider = .rule f)
    (hf : ∀ e e', Text.lower e = Text.lower e' → f e = f e') (hfile : d.isFile x.path = true)
    (hnew : ∀ y ∈ done, d.filePlace? y.path ≠ d.filePlace? x.path) :
    Progress j f d (done ++ [x]) (b.processFile j x.defs x.path) := by
  rw [Disk.isFile_eq, Option.isSome_iff_exists] at hfile
  obtain ⟨place, hplace⟩ := hfile
  obtain ⟨hedits, -⟩ := b.processFile_frame (j := j) x.defs x.path
  obtain ⟨b', hprocess, houtcomes, hdisk, hdecisions⟩ := Batch.processFile_fate hdecider
    (h.openDocument_eq hnew) ((h.filePlace?_eq x.path).trans hplace)
    (h.remembers.agreement_fst hf x.extension)
  obtain ⟨hwritten, hkept⟩ := h.contents_step hplace hnew hdisk
  obtain ⟨hremembers, hfailing, hasks⟩ := h.decisions_step hdecisions
  rw [hprocess] at hedits ⊢
  refine ⟨hedits.layout_eq.trans h.layout_eq, ?_, hwritten, hkept, hremembers, hfailing, hasks⟩
  rw [houtcomes, h.outcomes, List.map_append]
  rfl

end Step

/-- To process different files does with each of them what becomes of it in the tree of the
beginning. -/
theorem run (h : Progress j f d done b) (hdecider : j.decider = .rule f)
    (hf : ∀ e e', Text.lower e = Text.lower e' → f e = f e')
    (hfiles : ∀ x ∈ xs, d.isFile x.path = true)
    (hdistinct : ((done ++ xs).map fun x => d.filePlace? x.path).Nodup) :
    Progress j f d (done ++ xs) (b.processFiles j xs) := by
  induction xs generalizing done b with
  | nil => rwa [List.append_nil]
  | cons x xs ih =>
    rw [List.forall_mem_cons] at hfiles
    have hnew : ∀ y ∈ done, d.filePlace? y.path ≠ d.filePlace? x.path := by
      rw [List.map_append, List.nodup_append] at hdistinct
      exact fun y hy => hdistinct.2.2 _ (List.mem_map_of_mem hy) _ List.mem_cons_self
    rw [List.append_cons] at hdistinct ⊢
    exact ih (h.step hdecider hf hfiles.1 hnew) hfiles.2 hdistinct

/-- What was asked about are the extensions of the files that fail. -/
theorem mem_asked_iff (h : Progress j f d done b) {e : Text} :
    e ∈ b.asked ↔ ∃ x ∈ done, x.Fails j d ∧ Text.lower x.extension = e := by
  constructor
  · intro he
    obtain ⟨a, ha, rfl⟩ := List.mem_map.1 he
    obtain ⟨x, hx, hfails, hsame⟩ := h.failing a ha
    exact ⟨x, hx, hfails, congrArg Text.lower hsame⟩
  · rintro ⟨x, hx, hfails, rfl⟩
    exact h.asks x hx hfails

/-- Two batches that have processed the same files hold the same bytes. -/
theorem fileAt?_eq_of_perm {b' : Batch} (h : Progress j f d xs b) (h' : Progress j f d xs' b')
    (hperm : xs.Perm xs') (place : List Text) : b'.disk.fileAt? place = b.disk.fileAt? place := by
  by_cases hwritten : ∃ x ∈ xs, d.filePlace? x.path = some place ∧ (fate j f d x).2 ≠ none
  · obtain ⟨x, hx, hplace, hbytes⟩ := hwritten
    obtain ⟨bytes, hbytes⟩ := Option.ne_none_iff_exists'.1 hbytes
    rw [h.written x hx place bytes hplace hbytes,
      h'.written x (hperm.mem_iff.1 hx) place bytes hplace hbytes]
  · push Not at hwritten
    rw [h.kept place hwritten, h'.kept place fun x hx => hwritten x (hperm.mem_iff.2 hx)]

end Progress

/-- A batch does the same with different files in every order, when a rule that does not tell the
case of letters apart decides about headers that are not valid, and a file can be written always or
never. In both orders the same happens to each file, and all files hold the same bytes afterwards.
In both orders an extension is asked about once, whatever the case of its letters, and only for a
file whose header is not valid. So the same extensions are asked about: those of all such files. -/
theorem order_irrelevant {talk : Dialogue} (hdecider : j.decider = .rule f)
    (hf : ∀ e e', Text.lower e = Text.lower e' → f e = f e')
    (hfiles : ∀ x ∈ xs, d.isFile x.path = true)
    (hdistinct : (xs.map fun x => d.filePlace? x.path).Nodup) (hperm : xs.Perm xs') :
    let first := Batch.processFiles j { disk := d, dialogue := talk } xs
    let second := Batch.processFiles j { disk := d, dialogue := talk } xs'
    (∃ event : GivenFile → Event, first.outcomes = xs.map (fun x => ⟨x.path, event x⟩) ∧
        second.outcomes = xs'.map fun x => ⟨x.path, event x⟩) ∧
      (∀ place, second.disk.fileAt? place = first.disk.fileAt? place) ∧
      (first.asked.Nodup ∧
        ∀ a ∈ first.decisions, ∃ x ∈ xs, x.Fails j d ∧ x.extension = a.extension) ∧
      (second.asked.Nodup ∧
        ∀ a ∈ second.decisions, ∃ x ∈ xs, x.Fails j d ∧ x.extension = a.extension) ∧
      ∀ e, (e ∈ second.asked ↔ e ∈ first.asked) ∧
        (e ∈ first.asked ↔ ∃ x ∈ xs, x.Fails j d ∧ Text.lower x.extension = e) := by
  intro first second
  have hfirst : Progress j f d xs first := (Progress.start talk).run hdecider hf hfiles hdistinct
  have hsecond : Progress j f d xs' second :=
    (Progress.start talk).run hdecider hf (fun x hx => hfiles x (hperm.mem_iff.2 hx))
      ((hperm.map _).nodup_iff.1 hdistinct)
  refine ⟨⟨_, hfirst.outcomes, hsecond.outcomes⟩, hfirst.fileAt?_eq_of_perm hsecond hperm,
    ⟨hfirst.remembers.once, hfirst.failing⟩, ⟨hsecond.remembers.once, fun a ha => ?_⟩,
    fun e => ⟨?_, hfirst.mem_asked_iff⟩⟩
  · obtain ⟨x, hx, hfails⟩ := hsecond.failing a ha
    exact ⟨x, hperm.mem_iff.2 hx, hfails⟩
  · simp only [hfirst.mem_asked_iff, hsecond.mem_asked_iff, hperm.mem_iff]

/-- Two files of one language with license lines, above block comments that are left open. -/
def openComments : Disk where
  root := .dir [("a.cs".toList, .file (Utf8.encode "// License: MIT\n/* A\n".toList)),
    ("b.CS".toList, .file (Utf8.encode "// License: MIT\n/* B\n".toList))]
  cwd := []

theorem filePlace?_openComments {name : Text} {bytes : Bytes}
    (h : openComments.node? [name] = some (.file bytes)) :
    openComments.filePlace? (.ofNames [name]) = some [name] := by
  rw [Disk.filePlace?, Disk.locate_ofNames rfl (by decide) h]

/-- Two files with one extension in different cases: it is asked about once in both orders. -/
theorem order_irrelevant_for_open_comments :
    let f := fun e : Text => Text.lower e == ".cs".toList
    let j : Job := { plainJob with decider := .rule f, applies := true }
    let d := openComments
    let a : GivenFile := ⟨.ofNames ["a.cs".toList], none⟩
    let b : GivenFile := ⟨.ofNames ["b.CS".toList], none⟩
    let first := Batch.processFiles j { disk := d } [a, b]
    let second := Batch.processFiles j { disk := d } [b, a]
    j.decider = .rule f ∧ (∀ e e', Text.lower e = Text.lower e' → f e = f e') ∧
      (∀ x ∈ [a, b], d.isFile x.path = true) ∧
      ([a, b].map fun x => d.filePlace? x.path).Nodup ∧ [a, b].Perm [b, a] ∧
      (∃ event : GivenFile → Event, first.outcomes = [⟨a.path, event a⟩, ⟨b.path, event b⟩] ∧
        second.outcomes = [⟨b.path, event b⟩, ⟨a.path, event a⟩]) ∧
      (∀ place, second.disk.fileAt? place = first.disk.fileAt? place) ∧
      first.asked.Nodup ∧ second.asked.Nodup ∧
      ∀ e, (e ∈ first.asked ↔ e = ".cs".toList) ∧ (e ∈ second.asked ↔ e = ".cs".toList) := by
  intro f j d a b first second
  have hplaceA : d.filePlace? a.path = some ["a.cs".toList] := filePlace?_openComments rfl
  have hplaceB : d.filePlace? b.path = some ["b.CS".toList] := filePlace?_openComments rfl
  have hf : ∀ e e', Text.lower e = Text.lower e' → f e = f e' := fun e e' h => by
    simp only [f, h]
  have hfiles : ∀ x ∈ [a, b], d.isFile x.path = true := by
    simp [Disk.isFile_eq, hplaceA, hplaceB]
  have hdistinct : ([a, b].map fun x => d.filePlace? x.path).Nodup := by
    simp [hplaceA, hplaceB]
  have hfails : a.Fails j d := by
    let file : TextFile := ⟨false, "// License: MIT\n/* A\n".toList⟩
    have hopen : j.openDocument d none a.path = (j.document d none a.path file, []) :=
      j.openDocument_of_file hplaceA rfl (by decide +kernel) (by decide +kernel) rfl none
    have hdocument : j.document d none a.path file = .ok ⟨file, Language.BuiltIn.csharp,
        .ofTemplate Language.BuiltIn.csharp.style none (Template.bindings (j.facts d a.path)) []
          LineBreak.lf.text⟩ := rfl
    exact ⟨_, (congrArg Prod.fst hopen).trans hdocument, by decide +kernel⟩
  obtain ⟨hevents, hbytes, ⟨honce, -⟩, ⟨honce', -⟩, hasked⟩ :=
    @order_irrelevant j f d [a, b] [b, a] { input := [] } rfl hf hfiles hdistinct (.swap b a [])
  have hfirst : ∀ e, e ∈ first.asked ↔ e = ".cs".toList := by
    intro e
    refine (hasked e).2.trans ⟨?_, fun he => ⟨a, List.mem_cons_self, hfails, he.symm⟩⟩
    rintro ⟨x, hx, -, rfl⟩
    have hlower : ∀ x ∈ [a, b], Text.lower x.extension = ".cs".toList := by decide +kernel
    exact hlower x hx
  exact ⟨rfl, hf, hfiles, hdistinct, .swap b a [], hevents, hbytes, honce, honce', fun e =>
    ⟨hfirst e, (hasked e).1.trans (hfirst e)⟩⟩

end Letterhead

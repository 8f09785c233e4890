import Letterhead.Proofs.Batch.Depth

/-
  The stops of a walk. A walk that is never cancelled enters directories and processes entries, one
  after the other, and where it does so can be read off the tree before it begins (`stops`): what
  the walk writes on the way changes neither the layout nor a definition file. So the walk goes
  from stop to stop (`walk_follows`). At each entry it records one outcome, and it counts the
  directories that bring definitions along (`tour_records`); it ends on the way in the first
  directory whose definition file is refused (`fault_tour_iff`).
-/

namespace Letterhead

open Letterhead.Tree

/-- Where a walk stops: at a directory that it enters, or at an entry that it processes with the
definitions that hold there. -/
inductive Stop where
  | directory (p : Path)
  | entry (p : Path) (defs : Option DefinitionSet)
  deriving DecidableEq, Repr

namespace Stop

def path : Stop → Path
  | directory p | entry p _ => p

/-- The directory that is entered. -/
def directory? : Stop → Option Path
  | directory p => some p
  | entry _ _ => none

/-- The entry that is processed. -/
def entry? : Stop → Option Path
  | directory _ => none
  | entry p _ => some p

end Stop

/-- The stops at an entry of a directory; `down` gives those of a directory. -/
def stopsAt (j : Job) (d : Disk) (down : Path → List Stop) (defs : Option DefinitionSet)
    (p : Path) : List Stop :=
  if isHidden p.name then []
  else
    match j.excludes d p with
    | .ok false => if d.isDir p then down p else [.entry p defs]
    | _ => []

/-- The stops of a walk through a directory; the number bounds the depth. -/
def stops (j : Job) (d : Disk) : Nat → Option DefinitionSet → Path → List Stop
  | 0, _, _ => []
  | depth + 1, defs, dir =>
    let defs := (brought? j d dir).or defs
    .directory dir :: ((d.list dir).toOption.getD []).flatMap fun name =>
      stopsAt j d (stops j d depth defs) defs (dir.child name)

/-! ## What a walk asks of a tree -/

/-- In a tree without links the exclusions decide about each entry. -/
theorem Job.exists_excludes (j : Job) {d : Disk} {dir : Path} {name : Text}
    (hlinks : d.root.linkCount = 0) (hproper : d.root.namesProper = true)
    (h : d.Listed dir name) : ∃ excluded, j.excludes d (dir.child name) = .ok excluded := by
  have hname := Path.no_null_of_isProper (Disk.isProper_of_listed hproper h)
  have hnull : hasNull (dir.child name) = false := by
    obtain ⟨place, es, hlocate⟩ := Disk.locate_of_isDir (Disk.isDir_of_listed h)
    rw [Disk.hasNull_child, hname, Bool.or_false, Disk.hasNull_of_locate hlocate]
  rw [excludes]
  split
  · exact ⟨_, rfl⟩
  · rw [exclusionPath, Disk.resolve_eq hlinks hnull]
    exact ⟨_, rfl⟩

namespace Batch

/-- What a batch does at a stop. -/
def stopAt (j : Job) (b : Batch) : Stop → Batch
  | .directory p => (b.enter j true none p).2
  | .entry p defs => b.processFile j defs p

/-- Go from stop to stop, until the batch ends on the way. -/
def tour (j : Job) (b : Batch) : List Stop → Batch
  | [] => b
  | s :: ss => if b.isBroken then b else (b.stopAt j s).tour j ss

/-- A batch on its way through a tree, as a walk that is never cancelled keeps it. -/
structure OnCourse (d : Disk) (b : Batch) : Prop where
  scopes : SameScopes d b.disk
  uninterrupted : b.interrupted = false

variable {d : Disk} {b : Batch} {j : Job} {p dir : Path} {defs : Option DefinitionSet}
  {ss : List Stop}

/-! ## Tours -/

theorem tour_of_isBroken (h : b.isBroken = true) (ss : List Stop) : b.tour j ss = b := by
  cases ss with
  | nil => rfl
  | cons s ss => rw [tour, if_pos h]

theorem tour_append (b : Batch) (ss ss' : List Stop) :
    b.tour j (ss ++ ss') = (b.tour j ss).tour j ss' := by
  induction ss generalizing b with
  | nil => rfl
  | cons s ss ih =>
    rw [List.cons_append, tour, tour]
    split
    next h => rw [tour_of_isBroken h]
    next => exact ih _

/-! ## Directories -/

theorem snd_enter (b : Batch) (defs : Option DefinitionSet) (dir : Path) :
    (b.enter j true defs dir).2 = b.stopAt j (.directory dir) := by
  rw [stopAt]
  unfold enter
  split
  · rfl
  · split <;> simp [*]

theorem fst_enter (b : Batch) (defs : Option DefinitionSet) (dir : Path) :
    (b.enter j true defs dir).1 = (brought? j b.disk dir).or defs := by
  unfold enter brought?
  rcases ownDefinitions j b.disk dir with ⟨_ | _ | own, ns⟩ <;> rfl

theorem OnCourse.list_eq (h : OnCourse d b) (p : Path) : b.disk.list p = d.list p :=
  Disk.eq_of_layout_eq (f := (·.list p)) (·.list_layout p) h.scopes.layout_eq

theorem OnCourse.isDir_eq (h : OnCourse d b) (p : Path) : b.disk.isDir p = d.isDir p :=
  Disk.eq_of_layout_eq (f := (·.isDir p)) (·.isDir_layout p) h.scopes.layout_eq

theorem OnCourse.excludes_eq (h : OnCourse d b) (p : Path) : j.excludes b.disk p = j.excludes d p :=
  Disk.eq_of_layout_eq (f := (j.excludes · p)) (j.excludes_layout · p) h.scopes.layout_eq

theorem OnCourse.linkCount_eq (h : OnCourse d b) : b.disk.root.linkCount = d.root.linkCount :=
  Disk.eq_of_layout_eq (f := (·.root.linkCount)) (·.root.linkCount_layout) h.scopes.layout_eq

theorem OnCourse.enter (h : OnCourse d b) (defs : Option DefinitionSet) (dir : Path) :
    (b.enter j true defs dir).1 = (brought? j d dir).or defs ∧
      OnCourse d (b.enter j true defs dir).2 := by
  have hown := h.scopes.ownDefinitions_eq j dir
  refine ⟨by rw [fst_enter, brought?, hown, ← brought?], b.disk_enter true defs dir ▸ h.scopes, ?_⟩
  rw [← h.uninterrupted]
  unfold Batch.enter
  split
  · rfl
  · split <;> rfl

/-! ## Walks -/

theorem visitAll_of_isBroken {down : Batch → Path → Batch} (h : b.isBroken = true)
    (names : List Text) : b.visitAll j down defs dir names = b := by
  cases names with
  | nil => rfl
  | cons name names => rw [visitAll, if_pos h]

/-- A way through a path goes from stop to stop. -/
def Follows (d : Disk) (j : Job) (go : Batch → Batch) (ss : List Stop) : Prop :=
  ∀ b : Batch, OnCourse d b → b.isBroken = false → go b = b.tour j ss ∧ OnCourse d (go b)

section Walk

variable (hlinks : d.root.linkCount = 0) (hcancels : ∀ n, j.cancels n = false)
  (hinterrupts : j.interruptsAfterWrite = false)

include hlinks hinterrupts

theorem OnCourse.processFile {name : Text} (hup : name ≠ Path.up) (h : OnCourse d b)
    (defs : Option DefinitionSet) : OnCourse d (b.processFile j defs (dir.child name)) := by
  obtain ⟨hedits, -, -, hinterrupted, -⟩ := b.processFile_frame (j := j) defs (dir.child name)
  exact ⟨h.scopes.trans (hedits.sameScopes (h.linkCount_eq.trans hlinks) hup),
    (hinterrupted hinterrupts).trans h.uninterrupted⟩

theorem visit_follows {down : Batch → Path → Batch} {stopsDown : Path → List Stop} {name : Text}
    (hexcludes : ∃ excluded, j.excludes d (dir.child name) = .ok excluded)
    (hdown : d.isDir (dir.child name) = true →
      Follows d j (down · (dir.child name)) (stopsDown (dir.child name))) :
    Follows d j (·.visit j down defs (dir.child name))
      (stopsAt j d stopsDown defs (dir.child name)) := by
  intro b hb hbroken
  obtain ⟨excluded, hexcluded⟩ := hexcludes
  dsimp only
  rw [visit, stopsAt, hb.excludes_eq, hexcluded, hb.isDir_eq, Path.name_child]
  by_cases hhidden : isHidden name = true
  · rw [if_pos hhidden, if_pos hhidden]
    exact ⟨rfl, hb⟩
  · rw [if_neg hhidden, if_neg hhidden]
    cases excluded with
    | true => exact ⟨rfl, hb⟩
    | false =>
      dsimp only
      by_cases hdir : d.isDir (dir.child name) = true
      · rw [if_pos hdir, if_pos hdir]
        exact hdown hdir b hb hbroken
      · rw [if_neg hdir, if_neg hdir]
        have hup := ne_up_of_not_isHidden (Bool.eq_false_iff.2 hhidden)
        exact ⟨by rw [tour, hbroken]; rfl, hb.processFile hlinks hinterrupts hup defs⟩

include hcancels

theorem visitAll_follows {down : Batch → Path → Batch} {stopsDown : Path → List Stop}
    {names : List Text} (hexcludes : ∀ name ∈ names,
      ∃ excluded, j.excludes d (dir.child name) = .ok excluded)
    (hdown : ∀ name, d.isDir (dir.child name) = true →
      Follows d j (down · (dir.child name)) (stopsDown (dir.child name))) :
    Follows d j (·.visitAll j down defs dir names)
      (names.flatMap fun name => stopsAt j d stopsDown defs (dir.child name)) := by
  induction names with
  | nil => exact fun b hb _ => ⟨rfl, hb⟩
  | cons name names ih =>
    intro b hb hbroken
    have hcancelled : b.isCancelled j = false := by
      rw [isCancelled, hb.uninterrupted, hcancels, Bool.or_false]
    have hfollows : Follows d j (·.visit j down defs (dir.child name))
        (stopsAt j d stopsDown defs (dir.child name)) :=
      visit_follows hlinks hinterrupts (hexcludes name List.mem_cons_self) (hdown name)
    obtain ⟨hvisit, hcourse⟩ := hfollows b hb hbroken
    have hrest := ih fun name' hmem => hexcludes name' (List.mem_cons_of_mem _ hmem)
    dsimp only at hvisit hcourse hrest ⊢
    rw [visitAll, hbroken, hcancelled, if_neg Bool.false_ne_true, if_neg Bool.false_ne_true,
      List.flatMap_cons, tour_append, ← hvisit]
    by_cases hended : (b.visit j down defs (dir.child name)).isBroken = true
    · rw [visitAll_of_isBroken hended, tour_of_isBroken hended]
      exact ⟨rfl, hcourse⟩
    · exact hrest _ hcourse (Bool.eq_false_iff.2 hended)

/-- A walk that is never cancelled goes from stop to stop. -/
theorem walk_follows (hproper : d.root.namesProper = true) (depth : Nat)
    (defs : Option DefinitionSet) (hdir : d.isDir dir = true) :
    Follows d j (·.walk j true depth defs dir) (stops j d depth defs dir) := by
  induction depth generalizing defs dir with
  | zero => exact fun b hb _ => ⟨rfl, hb⟩
  | succ depth ih =>
    intro b hb hbroken
    obtain ⟨names, hlist⟩ := Disk.exists_list_of_isDir hdir
    obtain ⟨hdefs, hcourse⟩ := hb.enter (j := j) defs dir
    have hentered := b.snd_enter (j := j) defs dir
    dsimp only
    rw [walk, stops, tour, hbroken, if_neg Bool.false_ne_true, ← hentered, hlist]
    generalize b.enter j true defs dir = entered at hdefs hcourse hentered ⊢
    obtain ⟨defs', b'⟩ := entered
    obtain rfl : defs' = (brought? j d dir).or defs := hdefs
    dsimp only
    rw [hcourse.list_eq, hlist]
    dsimp only [Except.toOption, Option.getD_some]
    have hexcludes : ∀ name ∈ names, ∃ excluded, j.excludes d (dir.child name) = .ok excluded :=
      fun name hname => j.exists_excludes hlinks hproper ⟨names, hlist, hname⟩
    by_cases hended : b'.isBroken = true
    · rw [visitAll_of_isBroken hended, tour_of_isBroken hended]
      exact ⟨rfl, hcourse⟩
    · exact visitAll_follows hlinks hcancels hinterrupts hexcludes (fun name hdown => ih _ hdown) b'
        hcourse (Bool.eq_false_iff.2 hended)

end Walk

/-! ## What a tour records -/

/-- Each entry on a tour is an entry of a directory. -/
def EntriesBelow (ss : List Stop) : Prop :=
  ∀ p defs, .entry p defs ∈ ss → ∃ (dir : Path) (name : Text), p = dir.child name ∧ name ≠ Path.up

theorem isBroken_eq_false_iff : b.isBroken = false ↔ b.aborted = false ∧ b.fault = none := by
  rw [isBroken, Bool.or_eq_false_iff, Option.isSome_eq_false_iff, Option.isNone_iff_eq_none]

/-- To enter a directory counts the definitions that it brings along and ends the batch when its
definition file is refused. -/
theorem stopAt_directory (hb : OnCourse d b) (dir : Path) :
    OnCourse d (b.stopAt j (.directory dir)) ∧
      (b.stopAt j (.directory dir)).outcomes = b.outcomes ∧
      (b.stopAt j (.directory dir)).aborted = b.aborted ∧
      (b.fault = none → ((b.stopAt j (.directory dir)).fault = none ↔ ¬ Refuses j d dir)) ∧
      (b.stopAt j (.directory dir)).used =
        b.used + if (brought? j d dir).isSome then 1 else 0 := by
  have hown := hb.scopes.ownDefinitions_eq j dir
  refine ⟨(hb.enter none dir).2, b.outcomes_enter true none dir, ?_⟩
  rw [← isOk_ownDefinitions_iff, brought?, ← hown, stopAt, enter]
  rcases ownDefinitions j b.disk dir with ⟨e | _ | own, ns⟩
  · exact ⟨rfl, fun _ => iff_of_false nofun nofun, rfl⟩
  · exact ⟨rfl, fun h => iff_of_true h rfl, rfl⟩
  · exact ⟨rfl, fun h => iff_of_true h rfl, rfl⟩

/-- A rule has an answer for each extension. -/
theorem aborted_tour_of_rule {f : Text → Bool} (hrule : j.decider = .rule f)
    (h : b.aborted = false) (ss : List Stop) : (b.tour j ss).aborted = false := by
  induction ss generalizing b with
  | nil => exact h
  | cons s ss ih =>
    rw [tour]
    split
    · exact h
    · refine ih ?_
      cases s with
      | directory dir =>
        rw [← h, stopAt, enter]
        rcases ownDefinitions j b.disk dir with ⟨_ | _ | own, ns⟩ <;> rfl
      | entry p defs =>
        obtain ⟨-, -, -, -, ⟨-, hsame⟩ | ⟨-, -, huser⟩⟩ := b.processFile_frame (j := j) defs p
        · exact hsame.trans h
        · rw [hrule] at huser
          cases huser

/-- What a tour leaves behind that was not aborted. It ends on the way just when it comes to a
directory whose definition file is refused. Otherwise there is one outcome for each entry, and the
directories that bring definitions along are counted. -/
structure Records (j : Job) (d : Disk) (b : Batch) (ss : List Stop) (final : Batch) : Prop where
  fault_iff : final.fault = none ↔ ∀ dir, .directory dir ∈ ss → ¬ Refuses j d dir
  outcomes : final.fault = none →
    final.outcomes.map (·.path) = b.outcomes.map (·.path) ++ ss.filterMap Stop.entry?
  used : final.fault = none → final.used =
    b.used + (ss.filterMap Stop.directory?).countP fun dir => (brought? j d dir).isSome

theorem Records.nil (h : b.fault = none) : Records j d b [] b where
  fault_iff := iff_of_true h nofun
  outcomes _ := (List.append_nil _).symm
  used _ := rfl

theorem Records.directory {b' final : Batch} (hrefuses : ¬ Refuses j d dir)
    (houtcomes : b'.outcomes = b.outcomes)
    (hused : b'.used = b.used + if (brought? j d dir).isSome then 1 else 0)
    (h : Records j d b' ss final) : Records j d b (.directory dir :: ss) final where
  fault_iff := by
    rw [h.fault_iff]
    simp [hrefuses]
  outcomes hfinal := by
    rw [h.outcomes hfinal, houtcomes]
    rfl
  used hfinal := by
    rw [h.used hfinal, hused, Nat.add_assoc, Nat.add_comm (ite _ _ _), ← List.countP_cons]
    rfl

theorem Records.entry {b' final : Batch} {event : Event}
    (houtcomes : b'.outcomes = b.outcomes ++ [⟨p, event⟩]) (hused : b'.used = b.used)
    (h : Records j d b' ss final) : Records j d b (.entry p defs :: ss) final where
  fault_iff := by
    rw [h.fault_iff]
    simp
  outcomes hfinal := by
    rw [h.outcomes hfinal, houtcomes, List.map_append, List.append_assoc]
    rfl
  used hfinal := by
    rw [h.used hfinal, hused]
    rfl

theorem tour_records (hlinks : d.root.linkCount = 0) (hinterrupts : j.interruptsAfterWrite = false)
    (hentries : EntriesBelow ss) (hb : OnCourse d b) (hfault : b.fault = none)
    (haborted : (b.tour j ss).aborted = false) : Records j d b ss (b.tour j ss) := by
  induction ss generalizing b with
  | nil => exact .nil hfault
  | cons s ss ih =>
    rw [tour] at haborted ⊢
    by_cases hbroken : b.isBroken = true
    · rw [if_pos hbroken] at haborted
      rw [isBroken_eq_false_iff.2 ⟨haborted, hfault⟩] at hbroken
      cases hbroken
    rw [if_neg hbroken] at haborted ⊢
    have hrest : EntriesBelow ss := fun p defs hmem => hentries p defs (List.mem_cons_of_mem s hmem)
    cases s with
    | directory dir =>
      obtain ⟨hcourse, houtcomes, -, hfaults, hused⟩ := b.stopAt_directory (j := j) hb dir
      by_cases hrefuses : Refuses j d dir
      · -- The batch ends here, so the other stops are not reached.
        have hfault' : (b.stopAt j (.directory dir)).fault ≠ none := fun h =>
          (hfaults hfault).1 h hrefuses
        have hended : (b.stopAt j (.directory dir)).isBroken = true := by
          rw [isBroken, Option.isSome_iff_ne_none.2 hfault', Bool.or_true]
        rw [tour_of_isBroken hended]
        exact ⟨iff_of_false hfault' fun h => h dir List.mem_cons_self hrefuses,
          fun h => absurd h hfault', fun h => absurd h hfault'⟩
      · exact (ih hrest hcourse ((hfaults hfault).2 hrefuses) haborted).directory hrefuses
          houtcomes hused
    | entry p defs =>
      obtain ⟨dir, name, rfl, hup⟩ := hentries p defs List.mem_cons_self
      have hcourse : OnCourse d (b.processFile j defs (dir.child name)) :=
        hb.processFile hlinks hinterrupts hup defs
      obtain ⟨-, hused, hfault', -, hrecords⟩ :=
        b.processFile_frame (j := j) defs (dir.child name)
      obtain ⟨⟨event, houtcomes⟩, -⟩ | ⟨-, habort, -⟩ := hrecords
      · exact (ih hrest hcourse (hfault'.trans hfault) haborted).entry houtcomes hused
      · have hended : (b.processFile j defs (dir.child name)).isBroken = true := by
          rw [isBroken, habort, Bool.true_or]
        rw [stopAt, tour_of_isBroken hended, habort] at haborted
        cases haborted

end Batch
end Letterhead

import Letterhead.Proofs.Batch.Steps

/-
  Cancellation. A job that is cancelled once a number of outcomes are recorded runs as the same job
  does that is never cancelled, until there are so many, and stops before the next file, however
  deep in the tree that is. So its outcomes are the first ones of the whole run, and the files
  behind them keep their bytes (`cancellation_cuts`).
-/

namespace Letterhead

open Letterhead.Tree

/-- A job without its cancellation. -/
def Job.uncancelled (j : Job) : Job := { j with cancelAfter := none, cancels := fun _ => false }

/-- A job that is cancelled once a number of outcomes are recorded. -/
def Job.cancelledAfter (j : Job) (k : Nat) : Job :=
  { j with cancelAfter := some k, cancels := fun n => k ≤ n }

namespace Batch

variable {j : Job} {k : Nat} {b b' c c' : Batch} {down down' : Batch → Path → Batch}

/-- The batch `c` is `b` cut to `k` outcomes: it has the first ones, and while there are fewer it
is the same. -/
structure Cut (k : Nat) (c b : Batch) : Prop where
  outcomes : c.outcomes = b.outcomes.take k
  eq_of_lt : b.outcomes.length < k → c = b

theorem Cut.refl (h : b.outcomes.length ≤ k) : Cut k b b :=
  ⟨(List.take_of_length_le h).symm, fun _ => rfl⟩

/-- A batch with all of its outcomes stays cut while the other one goes on. -/
theorem Cut.of_becomes (h : Cut k c b) (hfull : k ≤ b.outcomes.length)
    (hcut : c'.outcomes = c.outcomes) (hb : Becomes j b b') : Cut k c' b' := by
  obtain ⟨os, houtcomes, -⟩ := hb.continues.exists_outcomes
  refine ⟨?_, fun hlt => ?_⟩
  · rw [hcut, h.outcomes, houtcomes, List.take_append_of_le_length hfull]
  · rw [houtcomes, List.length_append] at hlt
    omega

theorem Cut.isCancelled (h : Cut k c b) (hfull : k ≤ b.outcomes.length) :
    c.isCancelled (j.cancelledAfter k) = true := by
  have hlen : k ≤ c.outcomes.length := by
    rw [h.outcomes, List.length_take]
    omega
  have hcancels : (j.cancelledAfter k).cancels c.outcomes.length = true := decide_eq_true hlen
  rw [Batch.isCancelled, hcancels, Bool.or_true]

theorem isCancelled_cancelledAfter (h : b.outcomes.length < k) :
    b.isCancelled (j.cancelledAfter k) = b.isCancelled j.uncancelled := by
  have hcancels : (j.cancelledAfter k).cancels b.outcomes.length = false :=
    decide_eq_false (Nat.not_le_of_lt h)
  rw [isCancelled, isCancelled, hcancels]
  rfl

/-- A way of a job that is cancelled, and the way of the same job without that. -/
def Cuts (k : Nat) (cut whole : Batch → Batch) : Prop :=
  ∀ b : Batch, b.outcomes.length < k → Cut k (cut b) (whole b)

/-! ## Files -/

/-- No file is left half done: a cancellation does not show within one file. -/
theorem processFile_cuts (defs : Option DefinitionSet) (p : Path) :
    Cuts k (·.processFile (j.cancelledAfter k) defs p) (·.processFile j.uncancelled defs p) := by
  intro b hlt
  have hsame : b.processFile (j.cancelledAfter k) defs p = b.processFile j.uncancelled defs p := rfl
  dsimp only
  rw [hsame]
  refine .refl ?_
  obtain ⟨-, -, -, -, ⟨⟨event, houtcomes⟩, -⟩ | ⟨houtcomes, -⟩⟩ :=
    b.processFile_frame (j := j.uncancelled) defs p
  · rw [houtcomes, List.length_append, List.length_singleton]
    exact hlt
  · rw [houtcomes]
    exact Nat.le_of_lt hlt

/-! ## Directories -/

theorem visit_cuts (hdown : ∀ p, Cuts k (down' · p) (down · p)) (defs : Option DefinitionSet)
    (p : Path) :
    Cuts k (·.visit (j.cancelledAfter k) down' defs p) (·.visit j.uncancelled down defs p) := by
  intro b hlt
  have hexcludes : (j.cancelledAfter k).excludes b.disk p = j.uncancelled.excludes b.disk p := rfl
  dsimp only
  rw [visit, visit, hexcludes]
  split
  · exact .refl (Nat.le_of_lt hlt)
  · split
    · exact .refl (Nat.le_of_lt hlt)
    · exact .refl (Nat.le_of_lt hlt)
    · split
      · exact hdown p b hlt
      · exact processFile_cuts defs p b hlt

theorem outcomes_visitAll_of_isCancelled (h : b.isCancelled j = true)
    (defs : Option DefinitionSet) (dir : Path) (names : List Text) :
    (b.visitAll j down defs dir names).outcomes = b.outcomes := by
  cases names with
  | nil => rfl
  | cons name names =>
    rw [visitAll, h, if_pos rfl]
    split <;> rfl

theorem visitAll_cut (hdown : ∀ p, Cuts k (down' · p) (down · p))
    (hbecomes : ∀ b p, Becomes j.uncancelled b (down b p)) (h : Cut k c b)
    (defs : Option DefinitionSet) (dir : Path) (names : List Text) :
    Cut k (c.visitAll (j.cancelledAfter k) down' defs dir names)
      (b.visitAll j.uncancelled down defs dir names) := by
  induction names generalizing c b with
  | nil => exact h
  | cons name names ih =>
    rcases Nat.lt_or_ge b.outcomes.length k with hlt | hfull
    · -- Both batches are the same, and neither job is cancelled before this entry.
      obtain rfl := h.eq_of_lt hlt
      rw [visitAll, visitAll, isCancelled_cancelledAfter hlt]
      split
      · exact h
      · split
        · exact .refl (Nat.le_of_lt hlt)
        · exact ih (visit_cuts hdown defs _ c hlt)
    · -- The cut batch stops here, in this directory and in each one above it.
      exact h.of_becomes hfull (outcomes_visitAll_of_isCancelled (h.isCancelled hfull) _ _ _)
        (becomes_visitAll hbecomes defs dir b _)

theorem walk_cuts (searching : Bool) (depth : Nat) (defs : Option DefinitionSet) (dir : Path) :
    Cuts k (·.walk (j.cancelledAfter k) searching depth defs dir)
      (·.walk j.uncancelled searching depth defs dir) := by
  induction depth generalizing defs dir with
  | zero => exact fun b hlt => .refl (Nat.le_of_lt hlt)
  | succ depth ih =>
    intro b hlt
    have henter : b.enter (j.cancelledAfter k) searching defs dir =
        b.enter j.uncancelled searching defs dir := rfl
    have houtcomes := b.outcomes_enter (j := j.uncancelled) searching defs dir
    dsimp only
    rw [walk, walk, henter]
    rw [← houtcomes] at hlt
    generalize b.enter j.uncancelled searching defs dir = entered at hlt
    obtain ⟨defs', b'⟩ := entered
    dsimp only at hlt ⊢
    split
    · split
      · exact .refl (Nat.le_of_lt hlt)
      · exact .refl (Nat.le_of_lt hlt)
    · exact visitAll_cut (ih defs') (becomes_walk searching depth defs') (.refl (Nat.le_of_lt hlt))
        defs' dir _

/-! ## Inputs -/

theorem processWith_cuts (searching : Bool) (defs : Option DefinitionSet) (p : Path) :
    Cuts k (·.processWith (j.cancelledAfter k) searching defs p)
      (·.processWith j.uncancelled searching defs p) := by
  intro b hlt
  dsimp only
  rw [processWith, processWith]
  split
  · exact walk_cuts searching _ defs p b hlt
  · exact processFile_cuts defs p b hlt

theorem processInput_cuts (t : Templates) (p : Path) :
    Cuts k (·.processInput (j.cancelledAfter k) t p) (·.processInput j.uncancelled t p) := by
  intro b hlt
  have hexcludes : (j.cancelledAfter k).excludes b.disk p = j.uncancelled.excludes b.disk p := rfl
  have hinherited : inheritedDefinitions (j.cancelledAfter k) b.disk p =
      inheritedDefinitions j.uncancelled b.disk p := rfl
  dsimp only
  unfold processInput
  rw [hexcludes, hinherited]
  split
  · exact .refl (Nat.le_of_lt hlt)
  · exact .refl (Nat.le_of_lt hlt)
  · exact processWith_cuts false none p b hlt
  · exact processWith_cuts false _ p b hlt
  · split
    · exact processWith_cuts true _ p _ hlt
    · exact .refl (Nat.le_of_lt hlt)

theorem processInputs_of_isCancelled {t : Templates} (h : b.isCancelled j = true)
    (ps : List Path) : b.processInputs j t ps = b := by
  cases ps with
  | nil => rfl
  | cons p ps => rw [processInputs, h, Bool.or_true, if_pos rfl]

theorem processInputs_cut (h : Cut k c b) (t : Templates) (ps : List Path) :
    Cut k (c.processInputs (j.cancelledAfter k) t ps) (b.processInputs j.uncancelled t ps) := by
  induction ps generalizing c b with
  | nil => exact h
  | cons p ps ih =>
    rcases Nat.lt_or_ge b.outcomes.length k with hlt | hfull
    · obtain rfl := h.eq_of_lt hlt
      rw [processInputs, processInputs, isCancelled_cancelledAfter hlt]
      split
      · exact h
      · exact ih (processInput_cuts t p c hlt)
    · exact h.of_becomes hfull
        (congrArg Batch.outcomes (processInputs_of_isCancelled (h.isCancelled hfull) _))
        (becomes_processInputs t b _)

end Batch

/-- Whatever a job does with the inputs of a batch, when it is cancelled once `k` outcomes are
recorded it has recorded the first `k` of those that it records otherwise, or all where they are
fewer. The layout of the tree stays, and a file that none of them is about keeps its bytes. -/
theorem cancellation_cuts (j : Job) (t : Templates) (d : Disk) (talk : Dialogue) (ps : List Path)
    (k : Nat) :
    let whole := Batch.processInputs j.uncancelled t { disk := d, dialogue := talk } ps
    let cut := Batch.processInputs (j.cancelledAfter k) t { disk := d, dialogue := talk } ps
    cut.outcomes = whole.outcomes.take k ∧ cut.outcomes.length = min k whole.outcomes.length ∧
      cut.disk.layout = d.layout ∧
      ∀ place, (∀ o ∈ cut.outcomes, d.filePlace? o.path ≠ some place) →
        cut.disk.fileAt? place = d.fileAt? place := by
  intro whole cut
  have hstart : Batch.Cut k { disk := d, dialogue := talk } { disk := d, dialogue := talk } :=
    .refl (Nat.zero_le k)
  have hcut : Batch.Cut k cut whole := Batch.processInputs_cut hstart t ps
  have hcontinues : Batch.Continues { disk := d, dialogue := talk } cut :=
    (Batch.becomes_processInputs t _ ps).continues
  obtain ⟨os, houtcomes, hfiles⟩ := hcontinues.exists_outcomes
  rw [List.nil_append] at houtcomes
  exact ⟨hcut.outcomes, by rw [hcut.outcomes, List.length_take], hcontinues.layout_eq,
    houtcomes ▸ hfiles⟩

end Letterhead

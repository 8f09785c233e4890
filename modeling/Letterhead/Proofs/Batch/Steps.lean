import Mathlib.Logic.Relation
import Letterhead.Batch.Inputs
import Letterhead.Proofs.Batch.Frame

/-
  Batches step by step. Whatever a batch does on its way through directories and inputs, it does in
  steps of four kinds: it processes a file, enters a directory, says something, or ends by a fault
  (`becomes_walk`, `becomes_processInputs`). So what each step keeps is kept by all of them. No step
  takes an outcome back or changes the layout of the tree, and a file keeps its bytes until there is
  an outcome about it (`Becomes.continues`).
-/

namespace Letterhead

open Letterhead.Tree

namespace Batch

/-! ## Steps -/

/-- What a batch does at once. -/
inductive Step (j : Job) : Batch → Batch → Prop
  | file (b : Batch) (defs : Option DefinitionSet) (p : Path) : Step j b (b.processFile j defs p)
  | enter (b : Batch) (searching : Bool) (defs : Option DefinitionSet) (dir : Path) :
      Step j b (b.enter j searching defs dir).2
  | say (b : Batch) (rs : List Remark) : Step j b (b.say rs)
  | fail (b : Batch) (cause : BatchFault) : Step j b (b.fail cause)

/-- What a batch becomes on its way. -/
abbrev Becomes (j : Job) : Batch → Batch → Prop := Relation.ReflTransGen (Step j)

section Becomes

variable {j : Job} {down : Batch → Path → Batch} (hdown : ∀ b p, Becomes j b (down b p))

include hdown

theorem becomes_visit (defs : Option DefinitionSet) (b : Batch) (p : Path) :
    Becomes j b (b.visit j down defs p) := by
  unfold visit
  split
  · exact .refl
  · split
    · exact .single (.fail b _)
    · exact .refl
    · split
      · exact hdown b p
      · exact .single (.file b defs p)

theorem becomes_visitAll (defs : Option DefinitionSet) (dir : Path) (b : Batch)
    (names : List Text) : Becomes j b (b.visitAll j down defs dir names) := by
  induction names generalizing b with
  | nil => exact .refl
  | cons name names ih =>
    rw [visitAll]
    split
    · exact .refl
    · split
      · exact .single (.say b _)
      · exact (becomes_visit hdown defs b _).trans (ih _)

end Becomes

variable {j : Job}

theorem becomes_walk (searching : Bool) (depth : Nat) (defs : Option DefinitionSet) (b : Batch)
    (dir : Path) : Becomes j b (b.walk j searching depth defs dir) := by
  induction depth generalizing defs b dir with
  | zero => exact .refl
  | succ depth ih =>
    have henter : Becomes j b (b.enter j searching defs dir).2 := .single (.enter b _ _ _)
    rw [walk]
    generalize b.enter j searching defs dir = entered at henter ⊢
    obtain ⟨defs', b'⟩ := entered
    dsimp only at henter ⊢
    split
    · split
      · exact henter
      · exact henter.tail (.say b' _)
    · exact henter.trans (becomes_visitAll (ih defs') defs' dir b' _)

theorem becomes_processWith (searching : Bool) (defs : Option DefinitionSet) (b : Batch)
    (p : Path) : Becomes j b (b.processWith j searching defs p) := by
  unfold processWith
  split
  · exact becomes_walk searching _ defs b p
  · exact .single (.file b defs p)

theorem becomes_processInput (t : Templates) (b : Batch) (p : Path) :
    Becomes j b (b.processInput j t p) := by
  unfold processInput
  split
  · exact .single (.fail b _)
  · exact .single (.say b _)
  · exact becomes_processWith false none b p
  · exact becomes_processWith false _ b p
  · split
    · exact .head (.say b _) (becomes_processWith true _ _ p)
    · exact .head (.say b _) (.single (.fail _ _))

theorem becomes_processInputs (t : Templates) (b : Batch) (ps : List Path) :
    Becomes j b (b.processInputs j t ps) := by
  induction ps generalizing b with
  | nil => exact .refl
  | cons p ps ih =>
    rw [processInputs]
    split
    · exact .refl
    · exact (becomes_processInput t b p).trans (ih _)

/-! ## What steps keep -/

/-- A batch continues another one: it has more outcomes, and of the tree it has changed nothing
but the bytes of the files that they are about. -/
structure Continues (b b' : Batch) : Prop where
  layout_eq : b'.disk.layout = b.disk.layout
  exists_outcomes : ∃ os, b'.outcomes = b.outcomes ++ os ∧
    ∀ place, (∀ o ∈ os, b.disk.filePlace? o.path ≠ some place) →
      b'.disk.fileAt? place = b.disk.fileAt? place

namespace Continues

variable {b b' b'' : Batch}

/-- What leaves the tree and the outcomes alone. -/
theorem of_eq (hdisk : b'.disk = b.disk) (houtcomes : b'.outcomes = b.outcomes) :
    Continues b b' where
  layout_eq := congrArg Disk.layout hdisk
  exists_outcomes := ⟨[], by rw [houtcomes, List.append_nil], fun place _ => by rw [hdisk]⟩

theorem trans (h : Continues b b') (h' : Continues b' b'') : Continues b b'' := by
  refine ⟨h'.layout_eq.trans h.layout_eq, ?_⟩
  obtain ⟨os, houtcomes, hfiles⟩ := h.exists_outcomes
  obtain ⟨os', houtcomes', hfiles'⟩ := h'.exists_outcomes
  have hplace : ∀ p, b'.disk.filePlace? p = b.disk.filePlace? p := fun p =>
    Disk.eq_of_layout_eq (f := (·.filePlace? p)) (·.filePlace?_layout p) h.layout_eq
  refine ⟨os ++ os', by rw [houtcomes', houtcomes, List.append_assoc], fun place hnone => ?_⟩
  rw [List.forall_mem_append] at hnone
  exact (hfiles' place fun o ho => hplace o.path ▸ hnone.2 o ho).trans (hfiles place hnone.1)

end Continues

theorem Step.continues {b b' : Batch} (h : Step j b b') : Continues b b' := by
  cases h with
  | file defs p =>
    obtain ⟨hedits, -, -, -, ⟨⟨event, houtcomes⟩, -⟩ | ⟨hsame, -⟩⟩ :=
      b.processFile_frame (j := j) defs p
    · refine ⟨hedits.layout_eq, _, houtcomes, fun place hnone => ?_⟩
      exact hedits.fileAt?_eq (hnone _ List.mem_cons_self)
    · exact .of_eq (disk_processFile_of_outcomes_eq hsame) hsame
  | enter searching defs dir => exact .of_eq (b.disk_enter _ _ _) (b.outcomes_enter _ _ _)
  | say rs => exact .of_eq rfl rfl
  | fail cause => exact .of_eq rfl rfl

/-- What a batch becomes on its way continues it. -/
theorem Becomes.continues {b b' : Batch} (h : Becomes j b b') : Continues b b' := by
  induction h with
  | refl => exact .of_eq rfl rfl
  | tail _ hstep ih => exact ih.trans hstep.continues

end Batch
end Letterhead

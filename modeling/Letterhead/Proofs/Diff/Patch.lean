import Letterhead.Diff.Unified
import Mathlib.Tactic.Common

/-
  Patches by what their lines tell. The lines of a patch are texts, each with its mark in front;
  here a line is what the mark stands for, with the row behind it (`PatchLine`), and `unified` writes
  exactly these lines (`unified_eq_map_text`). The two labels come first and nowhere else
  (`patchLines_cases`). What is cut off around the hunks is kept, so the removed and the added rows
  are those of the script, which takes them from the old and the new text (`mem_rows_of_removed`,
  `mem_rows_of_added`).
-/

namespace Letterhead.Diff

/-! ## Lines -/

/-- A line of a patch: a label for one of the two texts, the ranges of a hunk, or a row of the texts
that is kept, removed or added. -/
inductive PatchLine where
  | oldLabel (path : Text)
  | newLabel (path : Text)
  | ranges (old new : String)
  | kept (row : Text)
  | removed (row : Text)
  | added (row : Text)
  deriving DecidableEq, Repr

namespace PatchLine

/-- A line as the patch has it. -/
def text : PatchLine → Text
  | oldLabel path => "--- ".toList ++ path ++ " (original)\n".toList
  | newLabel path => "+++ ".toList ++ path ++ " (updated)\n".toList
  | ranges old new => s!"@@ -{old} +{new} @@\n".toList
  | kept row => ' ' :: row
  | removed row => '-' :: row
  | added row => '+' :: row

def isLabel : PatchLine → Bool
  | oldLabel _ | newLabel _ => true
  | _ => false

end PatchLine

/-- The lines of a step. -/
def Step.patchLines : Step Text → List PatchLine
  | keep rows => rows.map .kept
  | change old new => old.map .removed ++ new.map .added

/-- The lines of a hunk. -/
def hunkPatch (steps : List Placed) : List PatchLine :=
  let oldLength := (steps.flatMap fun p => p.step.old).length
  let newLength := (steps.flatMap fun p => p.step.new).length
  .ranges (rangeText ((steps.head?.map (·.oldAt)).getD 0) oldLength)
      (rangeText ((steps.head?.map (·.newAt)).getD 0) newLength) ::
    steps.flatMap fun p => p.step.patchLines

/-- The lines of the patch that turns one text into another. -/
def patchLines (old new path : Text) : List PatchLine :=
  match hunks (placed 0 0 (script (Text.rows old) (Text.rows new))) with
  | [] => []
  | hs => .oldLabel path :: .newLabel path :: hs.flatMap hunkPatch

theorem Step.map_text_patchLines (s : Step Text) :
    s.patchLines.map PatchLine.text = stepLines s := by
  cases s with
  | keep rows => simp [patchLines, stepLines, PatchLine.text, Function.comp_def]
  | change old new => simp [patchLines, stepLines, PatchLine.text, Function.comp_def]

theorem map_text_hunkPatch (steps : List Placed) :
    (hunkPatch steps).map PatchLine.text = hunkLines steps := by
  have hsteps : (steps.flatMap fun p => p.step.patchLines).map PatchLine.text =
      steps.flatMap fun p => stepLines p.step := by
    simp only [List.map_flatMap, Step.map_text_patchLines]
  rw [hunkPatch, List.map_cons, hsteps]
  rfl

theorem unified_eq_map_text (old new path : Text) :
    unified old new path = (patchLines old new path).map PatchLine.text := by
  unfold unified patchLines
  cases hunks (placed 0 0 (script (Text.rows old) (Text.rows new))) with
  | nil => rfl
  | cons h hs =>
    have hhunks : ((h :: hs).flatMap hunkPatch).map PatchLine.text =
        (h :: hs).flatMap hunkLines := by
      simp only [List.map_flatMap, map_text_hunkPatch]
    dsimp only
    rw [List.map_cons, List.map_cons, hhunks]
    rfl

theorem Step.isLabel_of_mem {s : Step Text} {l : PatchLine} (h : l ∈ s.patchLines) :
    l.isLabel = false := by
  cases s with
  | keep rows =>
    obtain ⟨row, -, rfl⟩ := List.mem_map.1 h
    rfl
  | change old new =>
    rcases List.mem_append.1 h with h | h
    · obtain ⟨row, -, rfl⟩ := List.mem_map.1 h
      rfl
    · obtain ⟨row, -, rfl⟩ := List.mem_map.1 h
      rfl

/-- A patch has two labels at its start and no others, or it has no lines. -/
theorem patchLines_cases (old new path : Text) : patchLines old new path = [] ∨
    ∃ body, patchLines old new path = .oldLabel path :: .newLabel path :: body ∧
      ∀ l ∈ body, l.isLabel = false := by
  unfold patchLines
  split
  next => exact Or.inl rfl
  next hs _ =>
    refine Or.inr ⟨_, rfl, fun l hl => ?_⟩
    obtain ⟨steps, -, hl⟩ := List.mem_flatMap.1 hl
    rcases List.mem_cons.1 hl with rfl | hl
    · rfl
    · obtain ⟨p, -, hl⟩ := List.mem_flatMap.1 hl
      exact Step.isLabel_of_mem hl

/-! ## Rows of a script -/

section Script

variable {α : Type}

theorem mem_of_mem_joinKept {o n : List α} {steps : List (Step α)}
    (h : .change o n ∈ joinKept steps) : .change o n ∈ steps := by
  fun_induction joinKept steps with
  | case1 => cases h
  | case2 xs steps ys rest hrest ih =>
    rw [hrest] at ih
    have hmem := (List.mem_cons.1 h).resolve_left (by simp)
    exact List.mem_cons_of_mem _ (ih (List.mem_cons_of_mem _ hmem))
  | case3 xs steps hrest ih =>
    exact List.mem_cons_of_mem _ (ih ((List.mem_cons.1 h).resolve_left (by simp)))
  | case4 step steps hstep ih =>
    rcases List.mem_cons.1 h with rfl | h
    · exact List.mem_cons_self
    · exact List.mem_cons_of_mem _ (ih h)

variable [DecidableEq α]

/-- The entries that a change takes and gives are those of the lists. -/
theorem mem_of_mem_stepsAround {old : List (α × List Nat)} {start : Nat} {new o n : List α}
    (h : .change o n ∈ stepsAround old start new) :
    (∀ x ∈ o, x ∈ old.map (·.1)) ∧ ∀ x ∈ n, x ∈ new := by
  fun_induction stepsAround old start new with
  | case1 old start new r hr newEnd ih₁ ih₂ =>
    rcases List.mem_append.1 h with h | h
    · obtain ⟨ho, hn⟩ := ih₁ h
      refine ⟨fun x hx => ?_, fun x hx => List.mem_of_mem_take (hn x hx)⟩
      have hx := ho x hx
      rw [List.map_take] at hx
      exact List.mem_of_mem_take hx
    · obtain ⟨ho, hn⟩ := ih₂ ((List.mem_cons.1 h).resolve_left (by simp))
      refine ⟨fun x hx => ?_, fun x hx => List.mem_of_mem_drop (hn x hx)⟩
      have hx := ho x hx
      rw [List.map_drop] at hx
      exact List.mem_of_mem_drop hx
  | case2 old start new r hr hnil => cases h
  | case3 old start new r hr hne =>
    obtain ⟨rfl, rfl⟩ := Step.change.inj (List.mem_singleton.1 h)
    exact ⟨fun x hx => hx, fun x hx => hx⟩

theorem mem_of_mem_script {old new o n : List α} (h : .change o n ∈ script old new) :
    (∀ x ∈ o, x ∈ old) ∧ ∀ x ∈ n, x ∈ new := by
  have hold : (sited old new).map (·.1) = old := by simp [sited, Function.comp_def]
  have hsteps := mem_of_mem_stepsAround (mem_of_mem_joinKept h)
  rwa [hold] at hsteps

end Script

/-! ## Hunks -/

/-- The changes among steps. -/
def changesOf (steps : List Placed) : List Placed := steps.filter fun p => !p.isKept

theorem step_mem_of_mem_placed {oldAt newAt : Nat} {steps : List (Step Text)} {p : Placed}
    (h : p ∈ placed oldAt newAt steps) : p.step ∈ steps := by
  induction steps generalizing oldAt newAt with
  | nil => cases h
  | cons s steps ih =>
    rcases List.mem_cons.1 h with rfl | h
    · exact List.mem_cons_self
    · exact List.mem_cons_of_mem s (ih h)

theorem changesOf_cons_first (n : Nat) (p : Placed) (ps : List Placed) :
    changesOf (p.first n :: ps) = changesOf (p :: ps) := by
  obtain ⟨oldAt, newAt, step⟩ := p
  cases step <;> simp [changesOf, Placed.first, Placed.isKept]

theorem changesOf_cons_last (n : Nat) (p : Placed) (ps : List Placed) :
    changesOf (p.last n :: ps) = changesOf (p :: ps) := by
  obtain ⟨oldAt, newAt, step⟩ := p
  cases step <;> simp [changesOf, Placed.last, Placed.isKept]

theorem changesOf_cons (p : Placed) {ps ps' : List Placed} (h : changesOf ps = changesOf ps') :
    changesOf (p :: ps) = changesOf (p :: ps') := by
  unfold changesOf at h ⊢
  rw [List.filter_cons, List.filter_cons, h]

theorem changesOf_trimFirst (ps : List Placed) : changesOf (trimFirst ps) = changesOf ps := by
  cases ps with
  | nil => rfl
  | cons p ps => exact changesOf_cons_last context p ps

theorem changesOf_trimLast (ps : List Placed) : changesOf (trimLast ps) = changesOf ps := by
  fun_induction trimLast ps with
  | case1 => rfl
  | case2 p => exact changesOf_cons_first context p []
  | case3 p ps hps ih => exact changesOf_cons p ih

theorem changesOf_groups (ps : List Placed) :
    changesOf ((groups ps).1 ++ (groups ps).2.flatten) = changesOf ps := by
  fun_induction groups ps with
  | case1 => rfl
  | case2 p ps g gs hgroups hlong ih =>
    have hnone : changesOf [p.first context] = [] := by
      rw [changesOf_cons_first]
      simp [changesOf, hlong.1]
    rw [hgroups] at ih
    have hlast := changesOf_cons_last context p (g ++ gs.flatten)
    rw [changesOf_cons p ih] at hlast
    unfold changesOf at hnone hlast ⊢
    rw [List.flatten_cons, List.filter_append, hnone, List.nil_append, List.cons_append, hlast]
  | case3 p ps g gs hgroups hshort ih =>
    rw [hgroups] at ih
    exact changesOf_cons p ih

/-- Groups without changes can be left out. -/
theorem changesOf_flatten_filter (gs : List (List Placed)) :
    changesOf (gs.filter fun g => g.any fun p => !p.isKept).flatten = changesOf gs.flatten := by
  unfold changesOf
  induction gs with
  | nil => rfl
  | cons g gs ih =>
    rw [List.flatten_cons, List.filter_append, ← ih, List.filter_cons]
    split
    next => rw [List.flatten_cons, List.filter_append]
    next hany =>
      have hnone : g.filter (fun p => !p.isKept) = [] := by
        rw [List.filter_eq_nil_iff]
        intro p hp hchange
        exact hany (List.any_eq_true.2 ⟨p, hp, hchange⟩)
      rw [hnone, List.nil_append]

/-- The hunks hold every change, in order. -/
theorem changesOf_hunks (ps : List Placed) : changesOf (hunks ps).flatten = changesOf ps := by
  unfold hunks
  dsimp only
  rw [changesOf_flatten_filter, List.flatten_cons, changesOf_groups, changesOf_trimLast,
    changesOf_trimFirst]

/-- A change in a hunk is one of the script. -/
theorem mem_script_of_mem_hunks {old new : List Text} {steps : List Placed} {p : Placed}
    (hsteps : steps ∈ hunks (placed 0 0 (script old new))) (hp : p ∈ steps)
    (hchange : p.isKept = false) : p.step ∈ script old new := by
  have hmem : p ∈ changesOf (hunks (placed 0 0 (script old new))).flatten := by
    rw [changesOf, List.mem_filter, hchange]
    exact ⟨List.mem_flatten.2 ⟨steps, hsteps, hp⟩, rfl⟩
  rw [changesOf_hunks] at hmem
  exact step_mem_of_mem_placed (List.mem_filter.1 hmem).1

/-! ## Rows of a patch -/

variable {old new path row : Text}

/-- Where a row that is removed or added comes from. -/
theorem exists_change_of_mem {l : PatchLine} (h : l ∈ patchLines old new path)
    (hl : l = .removed row ∨ l = .added row) :
    ∃ o n, .change o n ∈ script (Text.rows old) (Text.rows new) ∧
      (l = .removed row ∧ row ∈ o ∨ l = .added row ∧ row ∈ n) := by
  unfold patchLines at h
  split at h
  next => cases h
  next hs _ =>
    have hlabel : ∀ path, l ≠ .oldLabel path ∧ l ≠ .newLabel path := by
      rcases hl with rfl | rfl <;> simp
    have hbody := (List.mem_cons.1 ((List.mem_cons.1 h).resolve_left (hlabel path).1)).resolve_left
      (hlabel path).2
    obtain ⟨steps, hsteps, hbody⟩ := List.mem_flatMap.1 hbody
    have hranges : ∀ o n, l ≠ .ranges o n := by
      rcases hl with rfl | rfl <;> simp
    obtain ⟨p, hp, hline⟩ := List.mem_flatMap.1 ((List.mem_cons.1 hbody).resolve_left (hranges _ _))
    cases hstep : p.step with
    | keep rows =>
      rw [hstep] at hline
      obtain ⟨row', -, rfl⟩ := List.mem_map.1 hline
      rcases hl with hl | hl <;> cases hl
    | change o n =>
      have hscript := mem_script_of_mem_hunks hsteps hp (by rw [Placed.isKept, hstep])
      rw [hstep] at hline hscript
      refine ⟨o, n, hscript, ?_⟩
      rcases List.mem_append.1 hline with hline | hline
      · obtain ⟨row', hrow, rfl⟩ := List.mem_map.1 hline
        rcases hl with hl | hl
        · cases hl
          exact Or.inl ⟨rfl, hrow⟩
        · cases hl
      · obtain ⟨row', hrow, rfl⟩ := List.mem_map.1 hline
        rcases hl with hl | hl
        · cases hl
        · cases hl
          exact Or.inr ⟨rfl, hrow⟩

theorem mem_rows_of_removed (h : .removed row ∈ patchLines old new path) : row ∈ Text.rows old := by
  obtain ⟨o, n, hscript, hrow⟩ := exists_change_of_mem h (Or.inl rfl)
  rcases hrow with ⟨-, hrow⟩ | ⟨hne, -⟩
  · exact (mem_of_mem_script hscript).1 row hrow
  · cases hne

theorem mem_rows_of_added (h : .added row ∈ patchLines old new path) : row ∈ Text.rows new := by
  obtain ⟨o, n, hscript, hrow⟩ := exists_change_of_mem h (Or.inr rfl)
  rcases hrow with ⟨hne, -⟩ | ⟨-, hrow⟩
  · cases hne
  · exact (mem_of_mem_script hscript).2 row hrow

end Letterhead.Diff

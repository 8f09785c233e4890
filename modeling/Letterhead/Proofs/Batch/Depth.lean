import Letterhead.Proofs.Batch.Steps

/-
  The depth of walks. The bound that a walk is given stands for no bound at all: in a tree without
  links each directory is lower than the one that it is an entry of, whatever has been written to
  files meanwhile, so any bound above the height of the tree gives the same walk
  (`processDirectory_eq_walk`).
-/

namespace Letterhead

open Letterhead.Tree

/-! ## Heights -/

namespace Tree

theorem Node.height_le_of_mem {name : Text} {m : Node} {es : List (Text × Node)}
    (h : (name, m) ∈ es) : m.height ≤ heightOf es := by
  induction es with
  | nil => cases h
  | cons e es ih =>
    rw [heightOf]
    rcases List.mem_cons.1 h with rfl | h
    · exact Nat.le_max_left _ _
    · exact Nat.le_trans (ih h) (Nat.le_max_right _ _)

theorem Node.height_le_of_at? {place : List Text} {n m : Node} (h : at? place n = some m) :
    m.height ≤ n.height :=
  of_at? (p := fun x => x.height ≤ n.height)
    (fun es name x hes hx => by
      rw [height] at hes
      have := height_le_of_mem hx
      omega)
    (Nat.le_refl _) h

namespace Disk

variable {d : Disk} {p : Path} {name : Text}

/-- The height of the node that a path leads to. -/
def heightAt (d : Disk) (p : Path) : Nat :=
  match d.locate p with
  | .ok (_, n) => n.height
  | .error _ => 0

theorem heightAt_le (d : Disk) (p : Path) : d.heightAt p ≤ d.root.height := by
  unfold heightAt
  split
  next place n h => exact Node.height_le_of_at? (node?_of_locate h)
  next => exact Nat.zero_le _

theorem heightAt_le_maxDepth (d : Disk) (p : Path) : d.heightAt p ≤ d.maxDepth := by
  have hheight := d.heightAt_le p
  simp only [maxDepth, maxLinks]
  omega

theorem heightAt_pos (h : d.isDir p = true) : 0 < d.heightAt p := by
  obtain ⟨place, es, hlocate⟩ := locate_of_isDir h
  rw [heightAt, hlocate]
  exact Nat.succ_pos _

theorem heightAt_child_lt (hlinks : d.root.linkCount = 0) (hname : name ≠ Path.up)
    (hdir : d.isDir (p.child name) = true) : d.heightAt (p.child name) < d.heightAt p := by
  unfold isDir at hdir
  split at hdir
  next place' es' hchild =>
    obtain ⟨place, es, hparent, rfl⟩ := place_of_locate_child hlinks hname hchild
    have hentry : es.lookup name = some (.dir es') := by
      have h := node?_of_locate hchild
      rw [node?, Node.at?_append, ← node?, node?_of_locate hparent, Option.bind_some,
        Node.at?_cons] at h
      obtain ⟨m, hm, hnode⟩ := Option.bind_eq_some_iff.1 h
      rw [← Option.some.inj hnode]
      exact hm
    have hle := Node.height_le_of_mem (Node.mem_of_lookup hentry)
    simp only [heightAt, hchild, hparent]
    rw [Node.height.eq_def (.dir es)]
    exact Nat.lt_succ_of_le hle
  · cases hdir

end Disk
end Tree

/-! ## Bounds -/

namespace Batch

variable {d : Disk} {b : Batch} {j : Job} {p dir : Path} {defs : Option DefinitionSet}

/-- Two ways down that agree on all directories in a directory agree on the directory. -/
theorem visitAll_congr {down down' : Batch → Path → Batch}
    (hdown : ∀ b p, Becomes j b (down b p)) {names : List Text} (hb : b.disk.layout = d.layout)
    (h : ∀ (b : Batch) (name : Text), b.disk.layout = d.layout → isHidden name = false →
      d.isDir (dir.child name) = true → down b (dir.child name) = down' b (dir.child name)) :
    b.visitAll j down defs dir names = b.visitAll j down' defs dir names := by
  induction names generalizing b with
  | nil => rfl
  | cons name names ih =>
    have hvisit : b.visit j down defs (dir.child name) = b.visit j down' defs (dir.child name) := by
      have hisDir : b.disk.isDir (dir.child name) = d.isDir (dir.child name) :=
        Disk.eq_of_layout_eq (f := (·.isDir _)) (·.isDir_layout _) hb
      unfold visit
      rw [Path.name_child, hisDir]
      split
      · rfl
      next hvisible =>
        split
        · rfl
        · rfl
        · split
          next hdir => exact h b name hb (Bool.eq_false_iff.2 hvisible) hdir
          next => rfl
    have hkeeps := (becomes_visit hdown defs b (dir.child name)).continues.layout_eq
    rw [visitAll, visitAll, ← hvisit, ih (hkeeps.trans hb)]

theorem walk_succ (hlinks : d.root.linkCount = 0) (searching : Bool) {depth : Nat}
    (hdepth : d.heightAt p < depth) (hb : b.disk.layout = d.layout)
    (defs : Option DefinitionSet) :
    b.walk j searching (depth + 1) defs p = b.walk j searching depth defs p := by
  induction depth generalizing b p defs with
  | zero => exact absurd hdepth (Nat.not_lt_zero _)
  | succ depth ih =>
    have hdisk := b.disk_enter (j := j) searching defs p
    rw [walk, walk]
    generalize b.enter j searching defs p = entered at hdisk ⊢
    obtain ⟨defs', b'⟩ := entered
    dsimp only at hdisk ⊢
    split
    · rfl
    · refine visitAll_congr (becomes_walk searching (depth + 1) defs') (hdisk ▸ hb) ?_
      intro b'' name hb'' hvisible hdir
      have hlt := Disk.heightAt_child_lt hlinks (ne_up_of_not_isHidden hvisible) hdir
      exact ih (by omega) hb'' defs'

/-- A walk through a tree without links does not run into its bound: every bound above the height
of the tree gives the same walk. -/
theorem processDirectory_eq_walk (hlinks : b.disk.root.linkCount = 0) (searching : Bool)
    {depth : Nat} (hdepth : b.disk.root.height < depth) (defs : Option DefinitionSet)
    (dir : Path) :
    b.processDirectory j searching defs dir = b.walk j searching depth defs dir := by
  have hheight := b.disk.heightAt_le dir
  have hextra : ∀ n, b.walk j searching (b.disk.root.height + 1 + n) defs dir =
      b.walk j searching (b.disk.root.height + 1) defs dir := by
    intro n
    induction n with
    | zero => rfl
    | succ n ih => rw [← ih, ← Nat.add_assoc, walk_succ hlinks searching (by omega) rfl]
  have hmax : b.disk.maxDepth = b.disk.root.height + 1 + 40 * (b.disk.root.height + 1) := by
    simp only [Disk.maxDepth, maxLinks]
    omega
  obtain ⟨n, rfl⟩ := Nat.exists_eq_add_of_le hdepth
  rw [processDirectory, hmax, hextra, Nat.succ_eq_add_one, hextra]

end Batch
end Letterhead

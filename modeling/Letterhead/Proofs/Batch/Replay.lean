import Letterhead.Batch.Outcome
import Letterhead.Proofs.Buffer.FileBytes
import Letterhead.Proofs.Tree.Contents

/-
  Replaying outcomes on a tree: the document of each altered file is written to the file, with the
  byte order mark that the file has. The layout stays. When the altered files are different ones,
  each of them ends up with the bytes of its own document (`fileAt?_replay_of_mem`), and every
  other file with the bytes that it had (`fileAt?_replay_of_not_mem`).
-/

namespace Letterhead

open Letterhead.Tree

/-! ## Outcomes -/

namespace Outcome

/-- Write the document of an altered file. -/
def carryInto (o : Outcome) (d : Disk) : Disk :=
  match o.change?, d.filePlace? o.path with
  | some c, some place =>
    match (d.fileAt? place).bind TextFile.ofBytes? with
    | some file => d.setFile place (TextFile.toBytes { file with text := c.updated })
    | none => d
  | _, _ => d

/-- The place of an altered file. -/
def place? (o : Outcome) (d : Disk) : Option (List Text) :=
  o.change?.bind fun _ => d.filePlace? o.path

variable {o : Outcome} {d d' : Disk} {place : List Text}

theorem place?_congr (h : d'.layout = d.layout) : o.place? d' = o.place? d := by
  rw [place?, place?, ← Disk.filePlace?_layout, h, Disk.filePlace?_layout]

theorem layout_carryInto (o : Outcome) (d : Disk) : (o.carryInto d).layout = d.layout := by
  unfold carryInto
  split
  next c place hc hplace =>
    split
    next file hfile =>
      obtain ⟨bytes, -, hbytes⟩ := Disk.locate_of_filePlace? hplace
      exact Disk.layout_setFile (by simp [hbytes]) _
    next => rfl
  next => rfl

theorem fileAt?_carryInto_of_ne (h : o.place? d ≠ some place) :
    (o.carryInto d).fileAt? place = d.fileAt? place := by
  unfold carryInto
  split
  next c place' hc hplace =>
    split
    next file hfile =>
      obtain ⟨bytes, -, hbytes⟩ := Disk.locate_of_filePlace? hplace
      refine Disk.fileAt?_setFile_of_ne (by simp [hbytes]) ?_ _
      rintro rfl
      exact h (by rw [place?, hc, Option.bind_some, hplace])
    next => rfl
  next => rfl

theorem fileAt?_carryInto_self {c : Change} {old : Bytes} {file : TextFile}
    (hc : o.change? = some c) (hplace : d.filePlace? o.path = some place)
    (hold : d.fileAt? place = some old) (hfile : TextFile.ofBytes? old = some file) :
    (o.carryInto d).fileAt? place = some (TextFile.toBytes { file with text := c.updated }) := by
  have hbind : (d.fileAt? place).bind TextFile.ofBytes? = some file := by rw [hold]; exact hfile
  rw [carryInto, hc, hplace]
  dsimp only
  rw [hbind]
  exact Disk.fileAt?_setFile_self d place _

end Outcome

/-- Write the documents of all altered files. -/
def replay (d : Disk) (os : List Outcome) : Disk := os.foldl (fun d o => o.carryInto d) d

/-- The places of the altered files. -/
def changedPlaces (d : Disk) (os : List Outcome) : List (List Text) :=
  os.filterMap fun o => o.place? d

theorem replay_append (d : Disk) (os : List Outcome) (o : Outcome) :
    replay d (os ++ [o]) = o.carryInto (replay d os) := by
  simp [replay]

theorem layout_replay (d : Disk) (os : List Outcome) : (replay d os).layout = d.layout := by
  induction os generalizing d with
  | nil => rfl
  | cons o os ih => exact (ih (o.carryInto d)).trans (o.layout_carryInto d)

theorem changedPlaces_congr {d d' : Disk} (h : d'.layout = d.layout) (os : List Outcome) :
    changedPlaces d' os = changedPlaces d os := by
  have hplace : (fun o : Outcome => o.place? d') = fun o => o.place? d :=
    funext fun _ => Outcome.place?_congr h
  rw [changedPlaces, hplace, changedPlaces]

theorem changedPlaces_append (d : Disk) (os : List Outcome) (o : Outcome) :
    changedPlaces d (os ++ [o]) = changedPlaces d os ++ (o.place? d).toList := by
  rw [changedPlaces, List.filterMap_append, changedPlaces]
  cases h : o.place? d <;> simp [h]

theorem mem_changedPlaces_iff {d : Disk} {os : List Outcome} {place : List Text} :
    place ∈ changedPlaces d os ↔ ∃ o ∈ os, o.place? d = some place :=
  List.mem_filterMap

/-- A file that is not altered keeps its bytes. -/
theorem fileAt?_replay_of_not_mem {d : Disk} {os : List Outcome} {place : List Text}
    (h : place ∉ changedPlaces d os) : (replay d os).fileAt? place = d.fileAt? place := by
  induction os generalizing d with
  | nil => rfl
  | cons o os ih =>
    have hlayout := o.layout_carryInto d
    have ho : o.place? d ≠ some place := fun ho =>
      h (mem_changedPlaces_iff.2 ⟨o, List.mem_cons_self, ho⟩)
    have hos : place ∉ changedPlaces (o.carryInto d) os := by
      rw [changedPlaces_congr hlayout]
      intro hmem
      obtain ⟨o', ho', hplace⟩ := mem_changedPlaces_iff.1 hmem
      exact h (mem_changedPlaces_iff.2 ⟨o', List.mem_cons_of_mem o ho', hplace⟩)
    exact (ih hos).trans (Outcome.fileAt?_carryInto_of_ne ho)

theorem changedPlaces_cons (d : Disk) (o : Outcome) (os : List Outcome) :
    changedPlaces d (o :: os) = (o.place? d).toList ++ changedPlaces d os := by
  rw [changedPlaces, List.filterMap_cons, changedPlaces]
  cases o.place? d <;> rfl

/-- An altered file ends up with the bytes of its document, if it is altered once. -/
theorem fileAt?_replay_of_mem {d : Disk} {os : List Outcome} {o : Outcome} {c : Change}
    {place : List Text} {old : Bytes} {file : TextFile} (hnodup : (changedPlaces d os).Nodup)
    (ho : o ∈ os) (hc : o.change? = some c) (hplace : d.filePlace? o.path = some place)
    (hold : d.fileAt? place = some old) (hfile : TextFile.ofBytes? old = some file) :
    (replay d os).fileAt? place = some (TextFile.toBytes { file with text := c.updated }) := by
  induction os generalizing d with
  | nil => cases ho
  | cons o' os ih =>
    have hlayout := o'.layout_carryInto d
    have hself : o.place? d = some place := by rw [Outcome.place?, hc, Option.bind_some, hplace]
    rw [replay, List.foldl_cons]
    rcases List.mem_cons.1 ho with rfl | ho
    · -- Altered here, and nowhere behind.
      have hbehind : place ∉ changedPlaces (o.carryInto d) os := by
        rw [changedPlaces_congr hlayout]
        rw [changedPlaces_cons, hself] at hnodup
        exact (List.nodup_cons.1 hnodup).1
      exact (fileAt?_replay_of_not_mem hbehind).trans
        (Outcome.fileAt?_carryInto_self hc hplace hold hfile)
    · -- Altered behind, so not here.
      have hmem : place ∈ changedPlaces d os := mem_changedPlaces_iff.2 ⟨o, ho, hself⟩
      have hhere : o'.place? d ≠ some place := by
        intro heq
        rw [changedPlaces_cons, heq] at hnodup
        exact (List.nodup_cons.1 hnodup).1 hmem
      refine ih ?_ ho ?_ ?_
      · rw [changedPlaces_congr hlayout]
        rw [changedPlaces_cons] at hnodup
        exact (List.nodup_append.1 hnodup).2.1
      · rw [← Disk.filePlace?_layout, hlayout, Disk.filePlace?_layout, hplace]
      · rw [Outcome.fileAt?_carryInto_of_ne hhere, hold]

end Letterhead

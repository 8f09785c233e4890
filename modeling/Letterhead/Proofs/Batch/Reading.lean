import Letterhead.Proofs.Definition.Directory

/-
  What a batch reads of the tree. Exclusions and the facts about a file are read off the layout; a
  document needs the bytes of its file besides, and the definitions of a directory the bytes of
  the definition files in it. So trees of one layout in which these files are the same cannot be
  told apart (`openDocument_congr`, `ownDefinitions_congr`).
-/

namespace Letterhead

open Letterhead.Tree

variable {d d' : Disk} {p dir : Path} {name : Text}

namespace Job

variable (j : Job)

theorem excludes_layout (d : Disk) (p : Path) : j.excludes d.layout p = j.excludes d p := by
  simp only [excludes, exclusionPath, Disk.resolve_layout, Disk.isDir_layout]

theorem facts_layout (d : Disk) (p : Path) : j.facts d.layout p = j.facts d p := by
  simp only [facts, Disk.canonical_layout]

theorem openDocument_congr (hl : d'.layout = d.layout) (hr : d'.read p = d.read p)
    (defs : Option DefinitionSet) : j.openDocument d' defs p = j.openDocument d defs p := by
  have hfile : d'.isFile p = d.isFile p :=
    Disk.eq_of_layout_eq (f := (·.isFile p)) (·.isFile_layout p) hl
  have hfacts : j.facts d' p = j.facts d p :=
    Disk.eq_of_layout_eq (f := (j.facts · p)) (j.facts_layout · p) hl
  simp only [openDocument, readText, document, hfile, hr, hfacts]

/-- A file that can be read as text is opened, unless it is a definition file. -/
theorem openDocument_of_file {place : List Text} {bytes : Bytes} {file : TextFile}
    (hplace : d.filePlace? p = some place) (hbytes : d.fileAt? place = some bytes)
    (hfile : TextFile.ofBytes? bytes = some file) (hname : isDefinitionPath p.toText = false)
    (hreads : j.readRefusal p = none) (defs : Option DefinitionSet) :
    j.openDocument d defs p = (j.document d defs p file, []) := by
  have hisFile : d.isFile p = true := by rw [Disk.isFile_eq, hplace, Option.isSome_some]
  have hread : j.readText d p = .ok (some file) := by
    rw [readText, hreads, Disk.read_of_filePlace? hplace hbytes, ← hfile]
    rfl
  simp only [openDocument, hisFile, hname, hread, Bool.not_true, Bool.false_eq_true, if_false]

/-- A document is the text of a file that is no definition file, with its own line breaks. -/
theorem of_openDocument_eq_ok {defs : Option DefinitionSet} {doc : Document} {ns : List Notice}
    (h : j.openDocument d defs p = (.ok doc, ns)) :
    isDefinitionPath p.toText = false ∧
      doc.rule.lineBreak = (Text.dominantBreak doc.file.text).text ∧
      ∃ place bytes, d.filePlace? p = some place ∧ d.fileAt? place = some bytes ∧
        TextFile.ofBytes? bytes = some doc.file := by
  unfold openDocument at h
  split at h
  · cases h
  next hfile =>
    split at h
    · cases h
    next hname =>
      rw [Bool.not_eq_true', Bool.not_eq_false, Disk.isFile_eq, Option.isSome_iff_exists] at hfile
      obtain ⟨place, hplace⟩ := hfile
      obtain ⟨bytes, -, hbytes⟩ := Disk.locate_of_filePlace? hplace
      split at h
      · cases h
      · cases h
      next file hread =>
        have hfile : TextFile.ofBytes? bytes = some file := by
          unfold readText at hread
          split at hread
          · cases hread
          · rw [Disk.read_of_filePlace? hplace hbytes] at hread
            exact Except.ok.inj hread
        simp only [document, Prod.mk.injEq] at h
        split at h
        · cases h.1
        · split at h
          · cases h.1
          · obtain rfl := Except.ok.inj h.1
            exact ⟨Bool.eq_false_iff.2 hname, rfl, place, bytes, hplace, hbytes, hfile⟩

end Job

/-! ## Definitions -/

theorem findDefinitionFile_layout (d : Disk) (dir : Path) :
    findDefinitionFile d.layout dir = findDefinitionFile d dir := by
  simp only [findDefinitionFile, definitionFiles, Disk.list_layout, Disk.isFile_layout]

theorem Host.refusal?_layout (h : Host) (d : Disk) (p : Path) :
    h.refusal? d.layout p = h.refusal? d p := by
  rw [refusal?, refusal?, Disk.locate_layout]
  rcases d.locate p with e | ⟨place, n⟩ <;> rfl

theorem ownDefinitions_congr (j : Job) (hl : d'.layout = d.layout)
    (hr : ∀ name, Text.lower (Path.suffixOf name) = definitionExtension →
      d'.read (dir.child name) = d.read (dir.child name)) :
    ownDefinitions j d' dir = ownDefinitions j d dir := by
  have hfind : findDefinitionFile d' dir = findDefinitionFile d dir :=
    Disk.eq_of_layout_eq (f := (findDefinitionFile · dir)) (findDefinitionFile_layout · dir) hl
  unfold ownDefinitions
  rw [hfind]
  split
  · rfl
  next p ns hp =>
    obtain ⟨name, rfl, hname⟩ := findDefinitionFile_eq_some_iff.1 (congrArg Prod.fst hp)
    have hrefusal : j.host.refusal? d' (dir.child name) = j.host.refusal? d (dir.child name) :=
      Disk.eq_of_layout_eq (f := (j.host.refusal? · (dir.child name)))
        (j.host.refusal?_layout · _) hl
    simp only [DefinitionSet.load, hr name hname.isDefinition.extension, hrefusal]

/-! ## Directories -/

theorem ne_up_of_not_isHidden (h : isHidden name = false) : name ≠ Path.up := by
  rintro rfl
  exact absurd h (by decide)

theorem Batch.visit_of_isHidden {j : Job} {down : Batch → Path → Batch}
    {defs : Option DefinitionSet} {b : Batch} (h : isHidden name = true) :
    b.visit j down defs (dir.child name) = b := by
  rw [visit, Path.name_child, if_pos h]

theorem Batch.disk_enter {j : Job} (b : Batch) (searching : Bool) (defs : Option DefinitionSet)
    (dir : Path) : (b.enter j searching defs dir).2.disk = b.disk := by
  unfold enter
  split
  · rfl
  · split <;> rfl

theorem Batch.outcomes_enter {j : Job} (b : Batch) (searching : Bool) (defs : Option DefinitionSet)
    (dir : Path) : (b.enter j searching defs dir).2.outcomes = b.outcomes := by
  unfold enter
  split
  · rfl
  · split <;> rfl

end Letterhead

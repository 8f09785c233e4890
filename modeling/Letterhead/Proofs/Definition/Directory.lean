import Letterhead.Batch.Walk
import Letterhead.Proofs.Tree.Descent

/-
  The definition file of a directory: of the files in it with the extension of definition files the
  first in the order of names (`findDefinitionFile_eq_some_iff`). A directory brings definitions
  along when this one file can be loaded (`Brings`), whatever other definition files there are.
  When the file cannot be used, a walk passes it by, except when the encoding refuses the file as a
  whole, which nothing accounts for (`Refuses`).
-/

namespace Letterhead

open Letterhead.Tree

variable {d : Disk} {j : Job} {dir p : Path} {name : Text}

/-! ## The first definition file -/

/-- A definition file among the entries of a directory. -/
structure IsDefinitionFile (d : Disk) (dir : Path) (name : Text) : Prop where
  listed : d.Listed dir name
  extension : Text.lower (Path.suffixOf name) = definitionExtension
  isFile : d.isFile (dir.child name) = true

/-- The definition file that decides in a directory: the first one in the order of names. -/
structure DefinedBy (d : Disk) (dir : Path) (name : Text) : Prop where
  isDefinition : IsDefinitionFile d dir name
  first : ∀ other, IsDefinitionFile d dir other → Text.notAfter name other = true

theorem DefinedBy.unique {other : Text} (h : DefinedBy d dir name) (h' : DefinedBy d dir other) :
    name = other :=
  Text.notAfter_antisymm (h.first other h'.isDefinition) (h'.first name h.isDefinition)

theorem IsDefinitionFile.definedBy (h : IsDefinitionFile d dir name)
    (honly : ∀ other, IsDefinitionFile d dir other → other = name) : DefinedBy d dir name :=
  ⟨h, fun other hother => honly other hother ▸ Text.notAfter_refl other⟩

theorem mem_definitionFiles_iff {names : List Text} (hlist : d.list dir = .ok names) :
    p ∈ definitionFiles d dir names ↔ ∃ name, p = dir.child name ∧ IsDefinitionFile d dir name := by
  rw [definitionFiles, List.mem_filter, List.mem_map, Bool.and_eq_true, beq_iff_eq]
  constructor
  · rintro ⟨⟨name, hname, rfl⟩, hsuffix, hfile⟩
    rw [Path.suffix_child] at hsuffix
    exact ⟨name, rfl, (Disk.listed_iff hlist).2 hname, hsuffix, hfile⟩
  · rintro ⟨name, rfl, hlisted, hsuffix, hfile⟩
    rw [Path.suffix_child]
    exact ⟨⟨name, (Disk.listed_iff hlist).1 hlisted, rfl⟩, hsuffix, hfile⟩

theorem fst_findDefinitionFile {names : List Text} (hlist : d.list dir = .ok names) :
    (findDefinitionFile d dir).1 = (definitionFiles d dir names).head? := by
  rw [findDefinitionFile, hlist]
  dsimp only
  rcases definitionFiles d dir names with _ | ⟨p, _ | ⟨q, ps⟩⟩ <;> rfl

/-- The definition files of a directory come in the order of their names. -/
theorem sorted_definitionFiles {names : List Text} (hlist : d.list dir = .ok names) :
    (definitionFiles d dir names).Pairwise fun p q => Text.notAfter p.name q.name = true := by
  refine List.Pairwise.filter _ (List.pairwise_map.2 ?_)
  simp only [Path.name_child]
  exact Disk.notAfter_of_list hlist

theorem definedBy_of_head? {names : List Text} (hlist : d.list dir = .ok names)
    (h : (definitionFiles d dir names).head? = some p) :
    ∃ name, p = dir.child name ∧ DefinedBy d dir name := by
  have hsorted := sorted_definitionFiles hlist
  obtain ⟨rest, hfiles⟩ := List.head?_eq_some_iff.1 h
  rw [hfiles] at hsorted
  obtain ⟨name, rfl, hname⟩ := (mem_definitionFiles_iff hlist).1 (hfiles ▸ List.mem_cons_self)
  refine ⟨name, rfl, hname, fun other hother => ?_⟩
  have hmem := (mem_definitionFiles_iff hlist).2 ⟨other, rfl, hother⟩
  rw [← dir.name_child name, ← dir.name_child other]
  rcases List.mem_cons.1 (hfiles ▸ hmem) with heq | hrest
  · rw [heq]
    exact Text.notAfter_refl _
  · exact (List.pairwise_cons.1 hsorted).1 _ hrest

theorem findDefinitionFile_eq_some_iff :
    (findDefinitionFile d dir).1 = some p ↔ ∃ name, p = dir.child name ∧ DefinedBy d dir name := by
  constructor
  · intro h
    cases hlist : d.list dir with
    | error fault => simp [findDefinitionFile, hlist] at h
    | ok names => exact definedBy_of_head? hlist (fst_findDefinitionFile hlist ▸ h)
  · rintro ⟨name, rfl, hname⟩
    obtain ⟨names, hlist, -⟩ := hname.isDefinition.listed
    have hmem := (mem_definitionFiles_iff hlist).2 ⟨name, rfl, hname.isDefinition⟩
    obtain ⟨p, rest, hfiles⟩ := List.exists_cons_of_ne_nil (List.ne_nil_of_mem hmem)
    have hhead : (definitionFiles d dir names).head? = some p := by rw [hfiles, List.head?_cons]
    obtain ⟨name', rfl, hname'⟩ := definedBy_of_head? hlist hhead
    rw [fst_findDefinitionFile hlist, hhead, hname.unique hname']

theorem findDefinitionFile_eq_none_iff :
    (findDefinitionFile d dir).1 = none ↔ ∀ name, ¬ DefinedBy d dir name := by
  rw [Option.eq_none_iff_forall_ne_some]
  constructor
  · exact fun h name hname => h _ (findDefinitionFile_eq_some_iff.2 ⟨name, rfl, hname⟩)
  · rintro h p hp
    obtain ⟨name, -, hname⟩ := findDefinitionFile_eq_some_iff.1 hp
    exact h name hname

/-! ## What a directory says about headers -/

/-- A host that closes no file. -/
theorem Host.refusal?_eq_none {h : Host} (hopen : ∀ place, h.closed place = none) (d : Disk)
    (p : Path) : h.refusal? d p = none := by
  unfold refusal?
  split
  · exact hopen _
  · rfl

/-- A directory brings definitions along: its definition file can be loaded. -/
def Brings (j : Job) (d : Disk) (dir : Path) (s : DefinitionSet) : Prop :=
  ∃ name, DefinedBy d dir name ∧
    DefinitionSet.load d (dir.child name) j.config.encoding j.host = .ok s

/-- The definition file of a directory cannot be loaded. -/
def Fails (j : Job) (d : Disk) (dir : Path) (e : DefinitionError) : Prop :=
  ∃ name, DefinedBy d dir name ∧
    DefinitionSet.load d (dir.child name) j.config.encoding j.host = .error e

/-- The definition file of a directory cannot be loaded, and nothing accounts for that. -/
def Refuses (j : Job) (d : Disk) (dir : Path) : Prop := ∃ e, Fails j d dir e ∧ e.isFault = true

variable {s : DefinitionSet} {e : DefinitionError}

/-- A directory has no definition file, or one that can be loaded, or one that cannot. -/
theorem definition_cases (j : Job) (d : Disk) (dir : Path) :
    (∀ name, ¬ DefinedBy d dir name) ∨ (∃ s, Brings j d dir s) ∨ ∃ e, Fails j d dir e := by
  by_cases h : ∃ name, DefinedBy d dir name
  · obtain ⟨name, hname⟩ := h
    cases hload : DefinitionSet.load d (dir.child name) j.config.encoding j.host with
    | ok s => exact Or.inr (Or.inl ⟨s, name, hname, hload⟩)
    | error e => exact Or.inr (Or.inr ⟨e, name, hname, hload⟩)
  · exact Or.inl (not_exists.1 h)

theorem Brings.unique {s' : DefinitionSet} (h : Brings j d dir s) (h' : Brings j d dir s') :
    s = s' := by
  obtain ⟨name, hname, hload⟩ := h
  obtain ⟨name', hname', hload'⟩ := h'
  obtain rfl := hname.unique hname'
  rw [hload] at hload'
  exact Except.ok.inj hload'

theorem Brings.not_fails (h : Brings j d dir s) : ¬ Fails j d dir e := by
  obtain ⟨name, hname, hload⟩ := h
  rintro ⟨name', hname', hload'⟩
  obtain rfl := hname.unique hname'
  rw [hload] at hload'
  cases hload'

theorem Fails.unique {e' : DefinitionError} (h : Fails j d dir e) (h' : Fails j d dir e') :
    e = e' := by
  obtain ⟨name, hname, hload⟩ := h
  obtain ⟨name', hname', hload'⟩ := h'
  obtain rfl := hname.unique hname'
  rw [hload] at hload'
  exact Except.error.inj hload'

theorem ownDefinitions_of_bare (h : ∀ name, ¬ DefinedBy d dir name) :
    (ownDefinitions j d dir).1 = .ok none := by
  have hfind := findDefinitionFile_eq_none_iff.2 h
  unfold ownDefinitions
  split
  next => rfl
  next hsome => rw [hsome] at hfind; cases hfind

theorem ownDefinitions_of_definedBy (h : DefinedBy d dir name) :
    (ownDefinitions j d dir).1 =
      match DefinitionSet.load d (dir.child name) j.config.encoding j.host with
      | .ok s => .ok (some s)
      | .error e => if e.isFault then .error e else .ok none := by
  have hfind := findDefinitionFile_eq_some_iff.2 ⟨name, rfl, h⟩
  unfold ownDefinitions
  split
  next hnone => rw [hnone] at hfind; cases hfind
  next p ns hsome =>
    rw [hsome] at hfind
    obtain rfl := Option.some.inj hfind
    split
    · simp [*]
    · split <;> simp [*]

theorem Brings.ownDefinitions (h : Brings j d dir s) :
    (ownDefinitions j d dir).1 = .ok (some s) := by
  obtain ⟨name, hname, hload⟩ := h
  rw [ownDefinitions_of_definedBy hname, hload]

theorem Fails.ownDefinitions (h : Fails j d dir e) :
    (ownDefinitions j d dir).1 = if e.isFault then .error e else .ok none := by
  obtain ⟨name, hname, hload⟩ := h
  rw [ownDefinitions_of_definedBy hname, hload]

/-- The definitions that a directory brings along, as a walk finds them. -/
def brought? (j : Job) (d : Disk) (dir : Path) : Option DefinitionSet :=
  (ownDefinitions j d dir).1.toOption.join

theorem brought?_eq_some_iff : brought? j d dir = some s ↔ Brings j d dir s := by
  unfold brought?
  rcases definition_cases j d dir with hbare | ⟨s', hbrings⟩ | ⟨e, hfails⟩
  · rw [ownDefinitions_of_bare hbare]
    exact iff_of_false nofun fun ⟨name, hname, _⟩ => hbare name hname
  · rw [hbrings.ownDefinitions]
    exact ⟨fun h => Option.some.inj h ▸ hbrings, fun h => congrArg some (hbrings.unique h)⟩
  · rw [hfails.ownDefinitions]
    refine iff_of_false ?_ fun h => h.not_fails hfails
    split <;> exact nofun

theorem brought?_eq_none_iff : brought? j d dir = none ↔ ∀ s, ¬ Brings j d dir s := by
  simp only [Option.eq_none_iff_forall_ne_some, ne_eq, brought?_eq_some_iff]

/-- A walk comes to an end in a directory whose definition file is refused. -/
theorem isOk_ownDefinitions_iff :
    (ownDefinitions j d dir).1.isOk = true ↔ ¬ Refuses j d dir := by
  rcases definition_cases j d dir with hbare | ⟨s', hbrings⟩ | ⟨e, hfails⟩
  · rw [ownDefinitions_of_bare hbare]
    exact iff_of_true rfl fun ⟨_, ⟨name, hname, _⟩, _⟩ => hbare name hname
  · rw [hbrings.ownDefinitions]
    exact iff_of_true rfl fun ⟨_, hfails, _⟩ => hbrings.not_fails hfails
  · rw [hfails.ownDefinitions]
    by_cases hfault : e.isFault = true
    · rw [if_pos hfault]
      exact iff_of_false nofun (not_not_intro ⟨e, hfails, hfault⟩)
    · rw [if_neg hfault]
      refine iff_of_true rfl fun ⟨e', hfails', hfault'⟩ => hfault ?_
      rwa [hfails.unique hfails']

end Letterhead

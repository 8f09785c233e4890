import Letterhead.Proofs.Definition.Directory

/-
  The nearest definition file above a path. The directories above a path are those of each
  directory on the way, with the ones below it in front (`exists_scopesUpTo_append`). Of these the
  nearest with a definition file decides alone (`nearestDefinitions_append`). What a directory
  says does not depend on how its path is written (`Brings.congr`, `Fails.congr`).
-/

namespace Letterhead

open Letterhead.Tree

variable {d : Disk} {j : Job} {dir p q : Path} {name : Text} {place ns : List Text}
  {s : DefinitionSet} {e : DefinitionError}

/-! ## The directories above a path -/

theorem scopesUpTo_eq_cons (stop : Option (List Text)) (place : List Text) :
    scopesUpTo stop place = place :: (scopesUpTo stop place).drop 1 := by
  rw [scopesUpTo.eq_def]
  split
  · rfl
  · cases place <;> rfl

theorem scopesUpTo_concat {stop : Option (List Text)}
    (hstop : ∀ top, stop = some top → top <+: place) (name : Text) :
    scopesUpTo stop (place ++ [name]) = (place ++ [name]) :: scopesUpTo stop place := by
  have hne : some (place ++ [name]) ≠ stop := by
    intro h
    have hle := (hstop _ h.symm).length_le
    rw [List.length_append, List.length_singleton] at hle
    omega
  have hdrop : (place ++ [name]).dropLast = place := List.dropLast_concat
  rw [scopesUpTo.eq_def, if_neg hne]
  split
  next h => exact absurd h (by simp)
  next => rw [hdrop]

/-- The directories above a path come to a directory on the way, and go on from there. -/
theorem exists_scopesUpTo_append {stop : Option (List Text)}
    (hstop : ∀ top, stop = some top → top <+: place) (rest : List Text) :
    ∃ nearer, scopesUpTo stop (place ++ rest) = nearer ++ scopesUpTo stop place ∧
      ∀ scope ∈ nearer, ∃ up, up ≠ [] ∧ up <+: rest ∧ scope = place ++ up := by
  induction rest generalizing place with
  | nil => exact ⟨[], by rw [List.append_nil, List.nil_append], nofun⟩
  | cons name rest ih =>
    have hstop' : ∀ top, stop = some top → top <+: place ++ [name] := fun top htop =>
      (hstop top htop).trans (List.prefix_append _ _)
    obtain ⟨nearer, hscopes, hnearer⟩ := ih hstop'
    refine ⟨nearer ++ [place ++ [name]], ?_, fun scope hscope => ?_⟩
    · rw [List.append_cons place name rest, hscopes, scopesUpTo_concat hstop, List.append_assoc,
        List.singleton_append]
    · rcases List.mem_append.1 hscope with hscope | hscope
      · obtain ⟨up, -, hup, rfl⟩ := hnearer scope hscope
        exact ⟨name :: up, List.cons_ne_nil _ _, List.cons_prefix_cons.2 ⟨rfl, hup⟩,
          (List.append_cons _ _ _).symm⟩
      · rw [List.mem_singleton.1 hscope]
        exact ⟨[name], List.cons_ne_nil _ _, by simp, rfl⟩

theorem scopesUpTo_subset {stop : Option (List Text)}
    (hstop : ∀ top, stop = some top → top <+: place) :
    scopesUpTo stop place ⊆ scopesUpTo stop (place ++ ns) := by
  obtain ⟨nearer, hscopes, -⟩ := exists_scopesUpTo_append hstop ns
  rw [hscopes]
  exact List.subset_append_right _ _

theorem mem_scopesUpTo {stop : Option (List Text)}
    (hstop : ∀ top, stop = some top → top <+: place) {up : List Text} (hup : up <+: ns) :
    place ++ up ∈ scopesUpTo stop (place ++ ns) := by
  obtain ⟨rest, rfl⟩ := hup
  rw [← List.append_assoc]
  refine scopesUpTo_subset (fun top htop => (hstop top htop).trans (List.prefix_append _ _)) ?_
  rw [scopesUpTo_eq_cons]
  exact List.mem_cons_self

/-! ## The nearest definition file -/

theorem nearestDefinitions_of_bare {dirs : List Path} (h : ∀ name, ¬ DefinedBy d dir name)
    (encoding : Option Text) (host : Host) :
    (nearestDefinitions d encoding (dir :: dirs) host).1 =
      (nearestDefinitions d encoding dirs host).1 := by
  have hfind := findDefinitionFile_eq_none_iff.2 h
  rw [nearestDefinitions]
  split
  next hsome => rw [hsome] at hfind; cases hfind
  next => rfl

theorem nearestDefinitions_of_definedBy (h : DefinedBy d dir name) (encoding : Option Text)
    (dirs : List Path) (host : Host) :
    (nearestDefinitions d encoding (dir :: dirs) host).1 =
      (DefinitionSet.load d (dir.child name) encoding host).map some := by
  have hfind := findDefinitionFile_eq_some_iff.2 ⟨name, rfl, h⟩
  rw [nearestDefinitions]
  split
  next p ns hsome =>
    rw [hsome] at hfind
    rw [Option.some.inj hfind]
  next hnone => rw [hnone] at hfind; cases hfind

theorem nearestDefinitions_append {nearer : List Path}
    (h : ∀ dir ∈ nearer, ∀ name, ¬ DefinedBy d dir name) (encoding : Option Text)
    (dirs : List Path) (host : Host) :
    (nearestDefinitions d encoding (nearer ++ dirs) host).1 =
      (nearestDefinitions d encoding dirs host).1 := by
  induction nearer with
  | nil => rfl
  | cons dir nearer ih =>
    rw [List.cons_append, nearestDefinitions_of_bare (h dir List.mem_cons_self),
      ih fun dir hdir => h dir (List.mem_cons_of_mem _ hdir)]

theorem nearestDefinitions_of_brings (h : Brings j d dir s) (dirs : List Path) :
    (nearestDefinitions d j.config.encoding (dir :: dirs) j.host).1 = .ok (some s) := by
  obtain ⟨name, hname, hload⟩ := h
  rw [nearestDefinitions_of_definedBy hname, hload]
  rfl

theorem nearestDefinitions_of_fails (h : Fails j d dir e) (dirs : List Path) :
    (nearestDefinitions d j.config.encoding (dir :: dirs) j.host).1 = .error e := by
  obtain ⟨name, hname, hload⟩ := h
  rw [nearestDefinitions_of_definedBy hname, hload]
  rfl

/-! ## One directory, two paths -/

section SamePlace

variable {n : Node} (hlinks : d.root.linkCount = 0) (hp : d.locate p = .ok (place, n))
  (hq : d.locate q = .ok (place, n))

/-- What a definition file holds, and whether it can be used, does not depend on how its path is
written. -/
theorem load_congr (h : d.locate p = d.locate q) (encoding : Option Text) (host : Host) :
    ((DefinitionSet.load d p encoding host).mapError (·.cause)).map (·.entries) =
      ((DefinitionSet.load d q encoding host).mapError (·.cause)).map (·.entries) := by
  have hread : d.read p = d.read q := by rw [Disk.read, Disk.read, h]
  have hrefusal : host.refusal? d p = host.refusal? d q := by rw [Host.refusal?, Host.refusal?, h]
  unfold DefinitionSet.load
  rw [hread, hrefusal]
  split
  · rfl
  · split
    · rfl
    · split
      · rfl
      · split
        · rfl
        · split <;> rfl

include hlinks hp hq

theorem isDefinitionFile_congr : IsDefinitionFile d p name → IsDefinitionFile d q name := by
  rintro ⟨⟨names, hlist, hname⟩, hextension, hfile⟩
  refine ⟨⟨names, ?_, hname⟩, hextension, ?_⟩
  · rwa [Disk.list, hq, ← hp, ← Disk.list]
  · rwa [Disk.isFile, ← Disk.locate_child_congr hlinks hp hq, ← Disk.isFile]

theorem definedBy_congr (h : DefinedBy d p name) : DefinedBy d q name where
  isDefinition := isDefinitionFile_congr hlinks hp hq h.isDefinition
  first other hother := h.first other (isDefinitionFile_congr hlinks hq hp hother)

theorem Brings.congr (h : Brings j d p s) : ∃ t, Brings j d q t ∧ t.entries = s.entries := by
  obtain ⟨name, hname, hload⟩ := h
  have hsame := load_congr (Disk.locate_child_congr hlinks hp hq name) j.config.encoding j.host
  rw [hload] at hsame
  cases hload' : DefinitionSet.load d (q.child name) j.config.encoding j.host with
  | error e => rw [hload'] at hsame; cases hsame
  | ok t =>
    rw [hload'] at hsame
    exact ⟨t, ⟨name, definedBy_congr hlinks hp hq hname, hload'⟩, (Except.ok.inj hsame).symm⟩

theorem Fails.congr (h : Fails j d p e) : ∃ e', Fails j d q e' ∧ e'.isFault = e.isFault := by
  obtain ⟨name, hname, hload⟩ := h
  have hsame := load_congr (Disk.locate_child_congr hlinks hp hq name) j.config.encoding j.host
  rw [hload] at hsame
  cases hload' : DefinitionSet.load d (q.child name) j.config.encoding j.host with
  | ok t => rw [hload'] at hsame; cases hsame
  | error e' =>
    rw [hload'] at hsame
    refine ⟨e', ⟨name, definedBy_congr hlinks hp hq hname, hload'⟩, ?_⟩
    have hcause : e.cause = e'.cause := Except.error.inj hsame
    rw [DefinitionError.isFault, DefinitionError.isFault, hcause]

end SamePlace

end Letterhead

import Letterhead.Proofs.Config.Contents
import Letterhead.Proofs.Tree.Descent
import Mathlib.Data.List.Infix
import Mathlib.Data.List.Induction

/-
  How configuration files are found. What a directory adds to them, and whether it ends the walk,
  depends on what is read of its two files alone. So the walk up from a directory comes to its end at
  the nearest directory with a root marker, and lists the files with settings of all directories on
  the way, the outermost first (`discoverAbove_eq`). Whatever lies above that directory does not
  count: disks that agree on the files on the way give the same settings
  (`discovery_ends_at_root`). All this is so for every reader of documents.
-/

namespace Letterhead

open Letterhead.Tree

variable {parse : Toml.Reader} {d d' : Disk} {p : Path} {place top rest : List Text} {bytes : Bytes}

/-! ## Files -/

/-- Whether a file counts as one with settings: it does unless it is a project file that is
well-formed and has no section with settings. -/
def hasSettings (parse : Toml.Reader) (d : Disk) (p : Path) : Bool :=
  (d.read p).toOption.any fun bytes =>
    (tableOf? parse bytes).all fun t => (settingsOf? p.name t).isSome

/-- Whether a file declares itself the root: it is well-formed, and its settings say so. -/
def declaresRoot (parse : Toml.Reader) (d : Disk) (p : Path) : Bool :=
  (d.read p).toOption.any fun bytes =>
    (settingsIn? parse p.name bytes).any fun t => (t.lookup "root".toList).any Datum.isTruthy

/-- Whether what is read of a file, if anything is, is legible. -/
def LegibleAt (parse : Toml.Reader) (d : Disk) (p : Path) : Prop :=
  ∀ bytes, d.read p = .ok bytes → Legible parse p.name bytes

theorem isFile_eq_isOk_read (d : Disk) (p : Path) : d.isFile p = (d.read p).isOk := by
  rw [Disk.isFile, Disk.read]
  rcases d.locate p with e | ⟨place, n⟩
  · rfl
  · cases n <;> rfl

/-- What is found out about a file that is legible, or cannot be read. -/
theorem inspectFile_eq (h : LegibleAt parse d p) :
    inspectFile d p parse = .ok (hasSettings parse d p, declaresRoot parse d p) := by
  rw [inspectFile, isFile_eq_isOk_read, hasSettings, declaresRoot]
  cases hread : d.read p with
  | error fault => rfl
  | ok bytes =>
    obtain ⟨htext, htools⟩ := h bytes hread
    have hvalue : ∀ q : Bytes → Bool, ((Except.ok bytes : Except Fault Bytes).toOption.any q) =
        q bytes := fun _ => rfl
    rw [hvalue, hvalue, settingsIn?]
    rcases loadTable_of_text hread htext with ⟨hnone, hload⟩ | ⟨t, ht, hload⟩
    · rw [hnone, hload]
      rfl
    · have hsettings : settings? p t = .ok (settingsOf? p.name t) :=
        settings?_eq fun hname v hv => htools hname t v ht hv
      rw [ht, hload]
      dsimp only [Except.isOk, Except.toBool, Bool.not_true]
      rw [hsettings]
      cases hu : settingsOf? p.name t with
      | none => simp [hu, bind, Except.bind, pure, Except.pure]
      | some u => simp [hu, bind, Except.bind, pure, Except.pure]

/-- A file that is not legible ends the search with an error that nothing accounts for. -/
theorem inspectFile_of_not_legible (h : ¬ LegibleAt parse d p) :
    ∃ e, inspectFile d p parse = .error e ∧ e.isFault = true := by
  obtain ⟨bytes, hread, hbytes⟩ :
      ∃ bytes, d.read p = .ok bytes ∧ ¬ Legible parse p.name bytes := by
    simpa [LegibleAt] using h
  rw [inspectFile, isFile_eq_isOk_read, hread]
  dsimp only [Except.isOk, Except.toBool, Bool.not_true]
  rcases exists_fault_of_not_legible hread hbytes with ⟨e, hload, hfault⟩ | ⟨t, v, hload, hsettings⟩
  · refine ⟨e, ?_, hfault⟩
    rw [hload]
    simp [hfault]
  · refine ⟨.noToolTable v, ?_, rfl⟩
    rw [hload]
    dsimp only
    rw [hsettings]
    rfl

/-! ## Directories -/

/-- The files of a directory that can hold settings. -/
def settingsPaths (place : List Text) : List Path :=
  [.ofNames (place ++ [projectFileName]), .ofNames (place ++ [configFileName])]

/-- The files with settings of a directory: that of the project comes first. -/
def settingsFiles (parse : Toml.Reader) (d : Disk) (place : List Text) : List Path :=
  (settingsPaths place).filter (hasSettings parse d)

/-- Whether a directory holds a file that declares itself the root. -/
def isMarked (parse : Toml.Reader) (d : Disk) (place : List Text) : Bool :=
  (settingsPaths place).any (declaresRoot parse d)

theorem inspectDirectory_eq (h : ∀ p ∈ settingsPaths place, LegibleAt parse d p) :
    inspectDirectory d place parse = .ok (settingsFiles parse d place, isMarked parse d place) := by
  have hproject :=
    inspectFile_eq (h (.ofNames (place ++ [projectFileName])) (by simp [settingsPaths]))
  have hown := inspectFile_eq (h (.ofNames (place ++ [configFileName])) (by simp [settingsPaths]))
  rw [inspectDirectory, settingsFiles, isMarked, settingsPaths]
  dsimp only
  rw [hproject, hown]
  simp only [bind, Except.bind, pure, Except.pure, List.filter_cons, List.filter_nil, List.any_cons,
    List.any_nil, Bool.or_false]
  split <;> split <;> rfl

theorem inspectDirectory_of_not_legible (hp : p ∈ settingsPaths place) (h : ¬ LegibleAt parse d p) :
    ∃ e, inspectDirectory d place parse = .error e ∧ e.isFault = true := by
  rw [inspectDirectory]
  dsimp only
  by_cases hproject : LegibleAt parse d (.ofNames (place ++ [projectFileName]))
  · have hown : p = .ofNames (place ++ [configFileName]) := by
      simp only [settingsPaths, List.mem_cons, List.not_mem_nil, or_false] at hp
      rcases hp with rfl | rfl
      · exact absurd hproject h
      · rfl
    obtain ⟨e, he, hfault⟩ := inspectFile_of_not_legible (hown ▸ h)
    refine ⟨e, ?_, hfault⟩
    rw [inspectFile_eq hproject, he]
    rfl
  · obtain ⟨e, he, hfault⟩ := inspectFile_of_not_legible hproject
    refine ⟨e, ?_, hfault⟩
    rw [he]
    rfl

/-! ## The walk up -/

theorem discoverAbove_nil (parse : Toml.Reader) (d : Disk) :
    discoverAbove d [] parse = (inspectDirectory d [] parse).map (·.1) := by
  rw [discoverAbove]
  cases inspectDirectory d [] parse <;> rfl

theorem discoverAbove_concat (parse : Toml.Reader) (d : Disk) (place : List Text) (name : Text) :
    discoverAbove d (place ++ [name]) parse =
      (inspectDirectory d (place ++ [name]) parse).bind fun (files, stop) =>
        if stop then .ok files else (discoverAbove d place parse).map (· ++ files) := by
  rw [discoverAbove.eq_def]
  cases inspectDirectory d (place ++ [name]) parse with
  | error e => rfl
  | ok found =>
    obtain ⟨files, stop⟩ := found
    dsimp only [bind, Except.bind]
    split
    next h => simp at h
    next =>
      rw [List.dropLast_concat]
      cases stop with
      | true => rfl
      | false => cases discoverAbove d place parse <;> rfl

/-- The walk up from `top ++ rest` comes to its end at `top`: a directory with a root marker or the
outermost one, and the directories below it have no marker. -/
structure WalkEnds (parse : Toml.Reader) (d : Disk) (top rest : List Text) : Prop where
  marked : top = [] ∨ isMarked parse d top = true
  unmarked : ∀ up, up ≠ [] → up <+: rest → isMarked parse d (top ++ up) = false

theorem exists_walkEnds (parse : Toml.Reader) (d : Disk) (place : List Text) :
    ∃ top rest, place = top ++ rest ∧ WalkEnds parse d top rest := by
  induction place using List.reverseRecOn with
  | nil => exact ⟨[], [], rfl, Or.inl rfl, fun up hne hup => absurd (List.prefix_nil.1 hup) hne⟩
  | append_singleton place name ih =>
    cases hmarked : isMarked parse d (place ++ [name]) with
    | true =>
      exact ⟨place ++ [name], [], (List.append_nil _).symm, Or.inr hmarked,
        fun up hne hup => absurd (List.prefix_nil.1 hup) hne⟩
    | false =>
      obtain ⟨top, rest, rfl, hend, hunmarked⟩ := ih
      refine ⟨top, rest ++ [name], List.append_assoc _ _ _, hend, fun up hne hup => ?_⟩
      rcases List.prefix_concat_iff.1 hup with rfl | hup
      · rwa [← List.append_assoc]
      · exact hunmarked up hne hup

theorem WalkEnds.eq_of_prefix {top' rest' : List Text} (h : WalkEnds parse d top rest)
    (h' : WalkEnds parse d top' rest') (heq : top ++ rest = top' ++ rest') (hle : top <+: top') :
    top = top' := by
  obtain ⟨up, rfl⟩ := hle
  rw [List.append_assoc, List.append_cancel_left_eq] at heq
  by_cases hup : up = []
  · rw [hup, List.append_nil]
  · have hunmarked := h.unmarked up hup ⟨rest', heq.symm⟩
    rcases h'.marked with hnil | hmarked
    · exact absurd (List.append_eq_nil_iff.1 hnil).2 hup
    · rw [hunmarked] at hmarked
      cases hmarked

/-- A walk has one end only. -/
theorem WalkEnds.unique {top' rest' : List Text} (h : WalkEnds parse d top rest)
    (h' : WalkEnds parse d top' rest') (heq : top ++ rest = top' ++ rest') :
    top = top' ∧ rest = rest' := by
  have htop : top = top' := by
    rcases List.prefix_or_prefix_of_prefix (List.prefix_append top rest)
      (heq ▸ List.prefix_append top' rest') with hle | hle
    · exact h.eq_of_prefix h' heq hle
    · exact (h'.eq_of_prefix h heq.symm hle).symm
  subst htop
  exact ⟨rfl, List.append_cancel_left heq⟩

theorem WalkEnds.of_concat {name : Text} (h : WalkEnds parse d top (rest ++ [name])) :
    WalkEnds parse d top rest :=
  ⟨h.marked, fun up hne hup => h.unmarked up hne (hup.trans (List.prefix_append _ _))⟩

/-- The directories on a walk, the outermost first. -/
def stations (top rest : List Text) : List (List Text) := rest.inits.map (top ++ ·)

theorem stations_concat (top rest : List Text) (name : Text) :
    stations top (rest ++ [name]) = stations top rest ++ [top ++ (rest ++ [name])] := by
  simp [stations, List.inits_append]

/-- The files that hold settings for a walk are those of the directories on it. -/
theorem discoverAbove_eq (h : WalkEnds parse d top rest)
    (hlegible : ∀ place ∈ stations top rest, ∀ p ∈ settingsPaths place, LegibleAt parse d p) :
    discoverAbove d (top ++ rest) parse =
      .ok ((stations top rest).flatMap (settingsFiles parse d)) := by
  induction rest using List.reverseRecOn with
  | nil =>
    have hstations : stations top [] = [top] := by simp [stations]
    rw [hstations] at hlegible ⊢
    have hinspect := inspectDirectory_eq (hlegible top (List.mem_singleton.2 rfl))
    rw [List.append_nil, List.flatMap_singleton]
    rcases List.eq_nil_or_concat' top with rfl | ⟨up, name, rfl⟩
    · rw [discoverAbove_nil, hinspect]
      rfl
    · have hmarked : isMarked parse d (up ++ [name]) = true := h.marked.resolve_left (by simp)
      rw [discoverAbove_concat, hinspect, hmarked]
      rfl
  | append_singleton rest name ih =>
    have hunmarked : isMarked parse d (top ++ (rest ++ [name])) = false :=
      h.unmarked (rest ++ [name]) (by simp) List.prefix_rfl
    rw [stations_concat] at hlegible ⊢
    have hinspect := inspectDirectory_eq (hlegible (top ++ (rest ++ [name])) (by simp))
    have habove := ih h.of_concat fun place hplace =>
      hlegible place (List.mem_append_left _ hplace)
    rw [← List.append_assoc] at hinspect hunmarked ⊢
    rw [discoverAbove_concat, hinspect, habove, hunmarked, List.flatMap_append,
      List.flatMap_singleton]
    rfl

theorem discoverAbove_of_error {e : ConfigError} (h : inspectDirectory d place parse = .error e) :
    discoverAbove d place parse = .error e := by
  rcases List.eq_nil_or_concat' place with rfl | ⟨up, name, rfl⟩
  · rw [discoverAbove_nil, h]
    rfl
  · rw [discoverAbove_concat, h]
    rfl

/-- A file on the way that is not legible ends the search with an error that nothing accounts
for. -/
theorem discoverAbove_of_not_legible (h : WalkEnds parse d top rest)
    (hplace : place ∈ stations top rest) (hp : p ∈ settingsPaths place)
    (hillegible : ¬ LegibleAt parse d p) :
    ∃ e, discoverAbove d (top ++ rest) parse = .error e ∧ e.isFault = true := by
  induction rest using List.reverseRecOn with
  | nil =>
    obtain rfl : place = top := by simpa [stations] using hplace
    obtain ⟨e, he, hfault⟩ := inspectDirectory_of_not_legible hp hillegible
    rw [List.append_nil]
    exact ⟨e, discoverAbove_of_error he, hfault⟩
  | append_singleton rest name ih =>
    by_cases hlast : ∀ q ∈ settingsPaths (top ++ (rest ++ [name])), LegibleAt parse d q
    · have hrest : place ∈ stations top rest := by
        rw [stations_concat, List.mem_append, List.mem_singleton] at hplace
        refine hplace.resolve_right ?_
        rintro rfl
        exact hillegible (hlast p hp)
      obtain ⟨e, he, hfault⟩ := ih h.of_concat hrest
      have hunmarked : isMarked parse d (top ++ (rest ++ [name])) = false :=
        h.unmarked (rest ++ [name]) (by simp) List.prefix_rfl
      have hinspect := inspectDirectory_eq hlast
      rw [← List.append_assoc] at hinspect hunmarked ⊢
      refine ⟨e, ?_, hfault⟩
      rw [discoverAbove_concat, hinspect, he, hunmarked]
      rfl
    · obtain ⟨q, hq, hnot⟩ :
          ∃ q ∈ settingsPaths (top ++ (rest ++ [name])), ¬ LegibleAt parse d q := by
        simpa using hlast
      obtain ⟨e, he, hfault⟩ := inspectDirectory_of_not_legible hq hnot
      exact ⟨e, discoverAbove_of_error he, hfault⟩

/-! ## Where a walk starts -/

/-- The directory where the search for a path starts: the one that it lies in if it is a file. -/
def startOf (d : Disk) (p : Path) : Except PathError (List Text) :=
  (d.resolve p).map fun names => if d.isFile (.ofNames names) then names.dropLast else names

theorem discover_eq (h : startOf d p = .ok place) :
    discover d p parse = discoverAbove d place parse := by
  rw [startOf] at h
  rw [discover]
  cases hresolve : d.resolve p with
  | error e => rw [hresolve] at h; cases h
  | ok names =>
    rw [hresolve] at h
    rw [← Except.ok.inj h]
    rfl

theorem startOf_of_dir {es : List (Text × Node)} (hlinks : d.root.linkCount = 0)
    (hproper : d.root.namesProper = true) (h : d.node? place = some (.dir es)) :
    startOf d (.ofNames place) = .ok place := by
  have hlocate := Disk.locate_ofNames hlinks hproper h
  have hfile : d.isFile (.ofNames place) = false := by rw [Disk.isFile, hlocate]
  rw [startOf, Disk.resolve_of_locate hlinks hlocate]
  refine congrArg Except.ok (if_neg ?_)
  rw [hfile]
  exact Bool.false_ne_true

/-! ## Disks that agree -/

theorem loadDraft_congr (h : d'.read p = d.read p) :
    loadDraft d' p parse = loadDraft d p parse := by
  simp only [loadDraft, loadTable, h]

theorem mergeFiles_congr (parse : Toml.Reader) {files : List Path}
    (h : ∀ p ∈ files, d'.read p = d.read p) (draft : Draft) :
    mergeFiles d' draft files parse = mergeFiles d draft files parse := by
  rw [mergeFiles, mergeFiles]
  induction files generalizing draft with
  | nil => rfl
  | cons p files ih =>
    rw [List.foldlM_cons, List.foldlM_cons, loadDraft_congr (h p List.mem_cons_self)]
    refine congrArg _ (funext fun draft => ?_)
    exact ih (fun q hq => h q (List.mem_cons_of_mem _ hq)) draft

theorem settingsFiles_congr (h : ∀ p ∈ settingsPaths place, d'.read p = d.read p) :
    settingsFiles parse d' place = settingsFiles parse d place := by
  refine List.filter_congr fun p hp => ?_
  rw [hasSettings, hasSettings, h p hp]

theorem isMarked_congr (h : ∀ p ∈ settingsPaths place, d'.read p = d.read p) :
    isMarked parse d' place = isMarked parse d place := by
  have hfile : ∀ p ∈ settingsPaths place, declaresRoot parse d' p = declaresRoot parse d p := by
    intro p hp
    rw [declaresRoot, declaresRoot, h p hp]
  rw [isMarked, isMarked, Bool.eq_iff_iff, List.any_eq_true, List.any_eq_true]
  constructor
  · rintro ⟨p, hp, hroot⟩
    exact ⟨p, hp, hfile p hp ▸ hroot⟩
  · rintro ⟨p, hp, hroot⟩
    exact ⟨p, hp, (hfile p hp).symm ▸ hroot⟩

/-- Disks that agree on the files with settings on a walk give it the same end. -/
theorem WalkEnds.congr (h : WalkEnds parse d top rest)
    (hagree : ∀ place ∈ stations top rest, ∀ p ∈ settingsPaths place, d'.read p = d.read p) :
    WalkEnds parse d' top rest := by
  have hmarked :
      ∀ up, up <+: rest → isMarked parse d' (top ++ up) = isMarked parse d (top ++ up) := by
    intro up hup
    refine isMarked_congr (hagree (top ++ up) ?_)
    exact List.mem_map.2 ⟨up, (List.mem_inits _ _).2 hup, rfl⟩
  refine ⟨h.marked.imp_right fun htop => ?_, fun up hne hup => ?_⟩
  · have htop' := hmarked [] List.nil_prefix
    rw [List.append_nil] at htop'
    rw [htop', htop]
  · rw [hmarked up hup, h.unmarked up hne hup]

/-- The walk up from a directory comes to its end at the nearest directory with a root marker, or at
the outermost one. The files that are found are the files with settings of the directories on the
way, if those can be told apart; and a disk that agrees on the files on the way gives the same files
and the same settings, whatever lies above. Which texts are documents, and with which tables, is up
to the reader. -/
theorem discovery_ends_at_root (parse : Toml.Reader) {start : Path}
    (hstart : startOf d start = .ok place) :
    ∃ top rest, place = top ++ rest ∧ WalkEnds parse d top rest ∧
      ((∀ here ∈ stations top rest, ∀ p ∈ settingsPaths here, LegibleAt parse d p) →
        discover d start parse = .ok ((stations top rest).flatMap (settingsFiles parse d)) ∧
        ∀ d' : Disk, startOf d' start = .ok place →
          (∀ here ∈ stations top rest, ∀ p ∈ settingsPaths here, d'.read p = d.read p) →
          discover d' start parse = discover d start parse ∧
          ∀ inputs extra : List Path, inputs.head?.getD (.ofNames d.cwd) = start →
            inputs.head?.getD (.ofNames d'.cwd) = start → (∀ p ∈ extra, d'.read p = d.read p) →
            loadMerged d' inputs extra true parse = loadMerged d inputs extra true parse) := by
  obtain ⟨top, rest, rfl, hends⟩ := exists_walkEnds parse d place
  refine ⟨top, rest, rfl, hends, fun hlegible => ?_⟩
  have hfound : discover d start parse =
      .ok ((stations top rest).flatMap (settingsFiles parse d)) := by
    rw [discover_eq hstart, discoverAbove_eq hends hlegible]
  refine ⟨hfound, fun d' hstart' hagree => ?_⟩
  have hlegible' :
      ∀ here ∈ stations top rest, ∀ p ∈ settingsPaths here, LegibleAt parse d' p := by
    intro here hhere p hp bytes hread
    exact hlegible here hhere p hp bytes (hagree here hhere p hp ▸ hread)
  have hfound' : discover d' start parse =
      .ok ((stations top rest).flatMap (settingsFiles parse d)) := by
    rw [discover_eq hstart', discoverAbove_eq (hends.congr hagree) hlegible']
    refine congrArg Except.ok (List.flatMap_congr fun here hhere => ?_)
    exact settingsFiles_congr (hagree here hhere)
  refine ⟨hfound'.trans hfound.symm, fun inputs extra hinputs hinputs' hextra => ?_⟩
  have hfiles :
      ∀ p ∈ (stations top rest).flatMap (settingsFiles parse d), d'.read p = d.read p := by
    intro p hp
    obtain ⟨here, hhere, hp⟩ := List.mem_flatMap.1 hp
    exact hagree here hhere p (List.mem_of_mem_filter hp)
  have hmerged := mergeFiles_congr parse hfiles Draft.defaults
  rw [loadMerged, loadMerged]
  dsimp only
  rw [hinputs, hinputs', if_pos rfl, if_pos rfl, hfound', hfound]
  simp only [bind, Except.bind, hmerged, mergeFiles_congr parse hextra]

theorem legibleAt_of_read (hread : d.read p = .ok bytes) (h : Legible parse p.name bytes) :
    LegibleAt parse d p := by
  intro bytes' hread'
  rw [hread, Except.ok.injEq] at hread'
  exact hread' ▸ h

/-- A project with a root marker, below a directory with a file of settings. -/
def nestedProject (outer : Bytes) : Disk where
  root := .dir [
    (configFileName, .file outer),
    ("a".toList, .dir [
      (projectFileName, .file []),
      (configFileName, .file (Utf8.encode "root = true\n".toList)),
      ("b".toList, .dir [
        (projectFileName, .file (Utf8.encode "[tool.licensemark]\n".toList)),
        (configFileName, .file [])])])]
  cwd := []

section Nested

variable {outer : Bytes}

theorem startOf_nestedProject :
    startOf (nestedProject outer) (.ofNames ["a".toList, "b".toList]) =
      .ok ["a".toList, "b".toList] :=
  startOf_of_dir rfl rfl rfl

/-- What there is in the files of the project, and what it says. -/
theorem reads_nestedProject :
    (nestedProject outer).read (.ofNames ["a".toList, projectFileName]) = .ok [] ∧
      (nestedProject outer).read (.ofNames ["a".toList, configFileName]) =
        .ok (Utf8.encode "root = true\n".toList) ∧
      (nestedProject outer).read (.ofNames ["a".toList, "b".toList, projectFileName]) =
        .ok (Utf8.encode "[tool.licensemark]\n".toList) ∧
      (nestedProject outer).read (.ofNames ["a".toList, "b".toList, configFileName]) = .ok [] :=
  ⟨Disk.read_ofNames rfl rfl rfl, Disk.read_ofNames rfl rfl rfl, Disk.read_ofNames rfl rfl rfl,
    Disk.read_ofNames rfl rfl rfl⟩

theorem settingsPaths_nestedProject {q : Path → Prop}
    (ha : q (.ofNames ["a".toList, projectFileName]))
    (ha' : q (.ofNames ["a".toList, configFileName]))
    (hb : q (.ofNames ["a".toList, "b".toList, projectFileName]))
    (hb' : q (.ofNames ["a".toList, "b".toList, configFileName])) :
    ∀ here ∈ stations ["a".toList] ["b".toList], ∀ p ∈ settingsPaths here, q p := by
  have hstations : stations ["a".toList] ["b".toList] = [["a".toList], ["a".toList, "b".toList]] :=
    rfl
  rw [hstations]
  simp only [List.forall_mem_cons, settingsPaths]
  exact ⟨⟨ha, ha', nofun⟩, ⟨hb, hb', nofun⟩, nofun⟩

theorem legible_nestedProject : ∀ here ∈ stations ["a".toList] ["b".toList],
    ∀ p ∈ settingsPaths here, LegibleAt Toml.read (nestedProject outer) p := by
  obtain ⟨ha, ha', hb, hb'⟩ := @reads_nestedProject outer
  refine settingsPaths_nestedProject (legibleAt_of_read ha ?_) (legibleAt_of_read ha' ?_)
    (legibleAt_of_read hb ?_) (legibleAt_of_read hb' ?_)
  all_goals decide +kernel

theorem walkEnds_nestedProject :
    WalkEnds Toml.read (nestedProject outer) ["a".toList] ["b".toList] := by
  obtain ⟨-, ha', hb, hb'⟩ := @reads_nestedProject outer
  refine ⟨Or.inr ?_, fun up hne hup => ?_⟩
  · refine List.any_eq_true.2 ⟨.ofNames ["a".toList, configFileName], by simp [settingsPaths], ?_⟩
    rw [declaresRoot, ha']
    decide +kernel
  · have hup' : up = ["b".toList] := by
      rcases List.prefix_cons_iff.1 hup with rfl | ⟨up', rfl, hup'⟩
      · exact absurd rfl hne
      · rw [List.prefix_nil.1 hup']
    subst hup'
    refine List.any_eq_false.2 fun p hp => ?_
    have hp' : p = .ofNames ["a".toList, "b".toList, projectFileName] ∨
        p = .ofNames ["a".toList, "b".toList, configFileName] := by
      simpa [settingsPaths] using hp
    rcases hp' with rfl | rfl
    · rw [declaresRoot, hb]
      decide +kernel
    · rw [declaresRoot, hb']
      decide +kernel

/-- Whatever the file above the project says, and be it no text, the settings of a path in the
project are the same. -/
theorem discovery_ends_at_nested_root :
    let start := Path.ofNames ["a".toList, "b".toList]
    let d := nestedProject []
    let d' := nestedProject [0xff]
    startOf d start = .ok ["a".toList, "b".toList] ∧
      WalkEnds Toml.read d ["a".toList] ["b".toList] ∧
      discover d start =
        .ok ((stations ["a".toList] ["b".toList]).flatMap (settingsFiles Toml.read d)) ∧
      discover d' start = discover d start ∧
      loadMerged d' [start] [] true = loadMerged d [start] [] true := by
  intro start d d'
  obtain ⟨top, rest, hplace, hends, hall⟩ :=
    discovery_ends_at_root Toml.read (d := d) startOf_nestedProject
  obtain ⟨rfl, rfl⟩ := hends.unique (d := d) walkEnds_nestedProject hplace.symm
  obtain ⟨hfound, hother⟩ := hall legible_nestedProject
  have hagree : ∀ here ∈ stations ["a".toList] ["b".toList], ∀ p ∈ settingsPaths here,
      d'.read p = d.read p := by
    obtain ⟨ha, ha', hb, hb'⟩ := @reads_nestedProject []
    obtain ⟨ga, ga', gb, gb'⟩ := @reads_nestedProject [0xff]
    exact settingsPaths_nestedProject (ga.trans ha.symm) (ga'.trans ha'.symm) (gb.trans hb.symm)
      (gb'.trans hb'.symm)
  obtain ⟨hsame, hload⟩ := hother d' startOf_nestedProject hagree
  exact ⟨startOf_nestedProject, walkEnds_nestedProject, hfound, hsame,
    hload [start] [] rfl rfl nofun⟩

end Nested

end Letterhead

import Letterhead.Proofs.Config.Complaints
import Letterhead.Proofs.Config.Discovery

/-
  What is said of settings files that are malformed. A file is reportable if its bytes are text, a
  project file has its tools in a table, and the first complaint about the settings can be written.
  These files, and no others, are loaded or refused with an error in the settings
  (`accounted_loadDraft_iff`). The search has no error of its own: it comes to its end exactly when
  all files on the way can be told to hold settings or not. The settings of a path are those of the
  files that are found, one laid over the other, so that the first file that cannot be loaded decides
  (`malformed_settings_reported_iff`).
-/

namespace Letterhead

open Letterhead.Tree

variable {parse : Toml.Reader} {d : Disk} {p start : Path} {place top rest : List Text}
  {bytes : Bytes}

/-- Reading settings comes to its end, or ends with an error in the settings. -/
def Accounted {α : Type} (r : Except ConfigError α) : Prop := ∀ e, r = .error e → e.isFault = false

theorem accounted_ok {α : Type} (a : α) : Accounted (.ok a) := nofun

theorem accounted_error_iff {α : Type} {e : ConfigError} :
    Accounted (.error e : Except ConfigError α) ↔ e.isFault = false :=
  ⟨fun h => h e rfl, fun h _ he => Except.error.inj he ▸ h⟩

/-- Bytes about which anything that is wrong can be said: they are legible, and the first complaint
about the settings in them, if there is one, can be written. -/
structure Reportable (parse : Toml.Reader) (name : Text) (bytes : Bytes) : Prop
    extends Legible parse name bytes where
  writable : ∀ t, settingsIn? parse name bytes = some t → firstComplaint? t ≠ some .unwritable

theorem writable_iff {c : Option FieldError} :
    c.all (fun e => !e.isFault) = true ↔ c ≠ some .unwritable := by
  cases c with
  | none => simp
  | some e =>
    simp only [Option.all_some, Bool.not_eq_true', ne_eq, Option.some.injEq, ← Bool.not_eq_true,
      FieldError.isFault_iff]

theorem reportable_iff {name : Text} :
    Reportable parse name bytes ↔
      Legible parse name bytes ∧
        (settingsIn? parse name bytes).all (fun t => (firstComplaint? t).all fun e => !e.isFault) =
          true := by
  simp only [Option.all_eq_true _ (settingsIn? parse name bytes), writable_iff]
  exact ⟨fun h => ⟨h.toLegible, h.writable⟩, fun ⟨hlegible, h⟩ => ⟨hlegible, h⟩⟩

instance (parse : Toml.Reader) (name : Text) (bytes : Bytes) :
    Decidable (Reportable parse name bytes) :=
  decidable_of_iff _ reportable_iff.symm

/-- Whether a path can be one of a file, and what is read of it, if anything is, is reportable. -/
def ReportableAt (parse : Toml.Reader) (d : Disk) (p : Path) : Prop :=
  hasNull p = false ∧ ∀ bytes, d.read p = .ok bytes → Reportable parse p.name bytes

/-! ## One file -/

theorem follow_ne_nullCharacter (d : Disk) (links : Nat) (names : List Text) :
    d.follow links place names ≠ .error .nullCharacter := by
  fun_induction d.follow links place names <;> simp_all

theorem read_ne_nullCharacter (h : hasNull p = false) : d.read p ≠ .error .nullCharacter := by
  have hfollow : d.locate p ≠ .error .nullCharacter := by
    rw [Disk.locate, if_neg (Bool.eq_false_iff.1 h)]
    exact follow_ne_nullCharacter d _ _
  rw [Disk.read]
  rcases hlocate : d.locate p with e | ⟨place, n⟩
  · rw [hlocate] at hfollow
    simpa using hfollow
  · cases n <;> simp

theorem loadDraft_of_unreadable {fault : Fault} (h : d.read p = .error fault) :
    loadDraft d p parse = .error (.unreadable p fault) := by
  simp only [loadDraft, loadTable, h, bind, Except.bind]

/-- The draft of a file that is legible. -/
theorem loadDraft_eq (hread : d.read p = .ok bytes) (h : Legible parse p.name bytes) :
    loadDraft d p parse =
      match tableOf? parse bytes with
      | none => .error (.malformed p)
      | some t =>
        match settingsOf? p.name t with
        | none => .ok none
        | some t =>
          ((Draft.ofTable t).mapError (.field (some p))).map fun draft =>
            some { draft with sources := [.file p] } := by
  rcases loadTable_of_text hread h.isText with ⟨hnone, hload⟩ | ⟨t, ht, hload⟩
  · rw [hnone, loadDraft, hload]
    rfl
  · have hsettings : settings? p t = .ok (settingsOf? p.name t) :=
      settings?_eq fun hname v hv => h.tools hname t v ht hv
    rw [ht, loadDraft, hload]
    simp only [bind, Except.bind, hsettings]
    cases settingsOf? p.name t with
    | none => rfl
    | some t => cases hdraft : Draft.ofTable t <;> rfl

theorem loadDraft_of_not_legible (hread : d.read p = .ok bytes)
    (h : ¬ Legible parse p.name bytes) :
    ∃ e, loadDraft d p parse = .error e ∧ e.isFault = true := by
  rcases exists_fault_of_not_legible hread h with ⟨e, hload, hfault⟩ | ⟨t, v, hload, hsettings⟩
  · refine ⟨e, ?_, hfault⟩
    rw [loadDraft, hload]
    rfl
  · refine ⟨.noToolTable v, ?_, rfl⟩
    rw [loadDraft, hload]
    simp only [bind, Except.bind, hsettings]

/-- What is said of a legible file is that it is malformed, or what is said of its settings. -/
theorem accounted_loadDraft_of_legible (hread : d.read p = .ok bytes)
    (h : Legible parse p.name bytes) :
    Accounted (loadDraft d p parse) ↔
      ∀ t, settingsIn? parse p.name bytes = some t → firstComplaint? t ≠ some .unwritable := by
  rw [loadDraft_eq hread h, settingsIn?]
  cases ht : tableOf? parse bytes with
  | none => simp [accounted_error_iff, ConfigError.isFault]
  | some t =>
    cases hu : settingsOf? p.name t with
    | none => simp [hu, accounted_ok]
    | some u =>
      simp only [Option.bind_some, hu, Option.some.injEq, forall_eq', ne_eq]
      rw [← Draft.ofTable_error_iff]
      cases hdraft : Draft.ofTable u with
      | ok draft => simp [Except.mapError, Except.map, accounted_ok]
      | error e =>
        simp only [Except.mapError, Except.map, accounted_error_iff, Except.error.injEq,
          ← FieldError.isFault_iff, Bool.not_eq_true]
        rfl

/-- Bytes that are read are loaded, or refused with an error in the settings, exactly when they are
reportable. -/
theorem accounted_loadDraft_of_read (hread : d.read p = .ok bytes) :
    Accounted (loadDraft d p parse) ↔ Reportable parse p.name bytes := by
  by_cases hlegible : Legible parse p.name bytes
  · rw [accounted_loadDraft_of_legible hread hlegible]
    exact ⟨fun h => ⟨hlegible, h⟩, Reportable.writable⟩
  · obtain ⟨e, he, hfault⟩ := loadDraft_of_not_legible hread hlegible
    rw [he, accounted_error_iff, hfault]
    simpa using fun h : Reportable parse p.name bytes => hlegible h.toLegible

/-- A file is loaded, or refused with an error in the settings, exactly when it is reportable. -/
theorem accounted_loadDraft_iff : Accounted (loadDraft d p parse) ↔ ReportableAt parse d p := by
  cases hnull : hasNull p with
  | true =>
    have hread : d.read p = .error .nullCharacter := by
      rw [Disk.read, Disk.locate, if_pos hnull]
    rw [loadDraft_of_unreadable hread, accounted_error_iff]
    simp [ReportableAt, hnull, ConfigError.isFault]
  | false =>
    cases hread : d.read p with
    | error fault =>
      have hfault : fault ≠ .nullCharacter := fun h => read_ne_nullCharacter hnull (h ▸ hread)
      rw [loadDraft_of_unreadable hread, accounted_error_iff]
      simp [ReportableAt, hnull, hread, ConfigError.isFault, hfault]
    | ok bytes =>
      rw [accounted_loadDraft_of_read hread]
      simp [ReportableAt, hnull, hread]

/-- A file has no settings exactly when it is a well-formed project file without the section. -/
theorem loadDraft_eq_none_iff :
    loadDraft d p parse = .ok none ↔
      ∃ bytes t, d.read p = .ok bytes ∧ Legible parse p.name bytes ∧ p.name = projectFileName ∧
        tableOf? parse bytes = some t ∧ section? t = none := by
  constructor
  · intro hnone
    cases hread : d.read p with
    | error fault =>
      rw [loadDraft_of_unreadable hread] at hnone
      cases hnone
    | ok bytes =>
      by_cases hlegible : Legible parse p.name bytes
      · rw [loadDraft_eq hread hlegible] at hnone
        cases ht : tableOf? parse bytes with
        | none => rw [ht] at hnone; cases hnone
        | some t =>
          rw [ht] at hnone
          dsimp only at hnone
          cases hu : settingsOf? p.name t with
          | none =>
            rw [settingsOf?] at hu
            split at hu
            next hname => exact ⟨bytes, t, rfl, hlegible, hname, ht, hu⟩
            next => cases hu
          | some u =>
            rw [hu] at hnone
            dsimp only at hnone
            cases hdraft : Draft.ofTable u <;> rw [hdraft] at hnone <;> cases hnone
      · obtain ⟨e, he, -⟩ := loadDraft_of_not_legible hread hlegible
        rw [he] at hnone
        cases hnone
  · rintro ⟨bytes, t, hread, hlegible, hname, ht, hsection⟩
    rw [loadDraft_eq hread hlegible, ht]
    dsimp only
    rw [settingsOf?, if_pos hname, hsection]

/-! ## The search -/

/-- The search comes to its end exactly when every file on the way is legible; else it ends with an
error that nothing accounts for. -/
theorem exists_discover_iff (hstart : startOf d start = .ok (top ++ rest))
    (hends : WalkEnds parse d top rest) :
    (∃ files, discover d start parse = .ok files) ↔
      ∀ here ∈ stations top rest, ∀ p ∈ settingsPaths here, LegibleAt parse d p := by
  constructor
  · rintro ⟨files, hfiles⟩ here hhere p hp
    by_contra hnot
    obtain ⟨e, he, -⟩ := discoverAbove_of_not_legible hends hhere hp hnot
    rw [discover_eq hstart, he] at hfiles
    cases hfiles
  · intro hlegible
    exact ⟨_, by rw [discover_eq hstart, discoverAbove_eq hends hlegible]⟩

theorem accounted_discover_iff (hstart : startOf d start = .ok place) :
    Accounted (discover d start parse) ↔ ∃ files, discover d start parse = .ok files := by
  obtain ⟨top, rest, rfl, hends⟩ := exists_walkEnds parse d place
  constructor
  · intro haccounted
    rw [exists_discover_iff hstart hends]
    intro here hhere p hp
    by_contra hnot
    obtain ⟨e, he, hfault⟩ := discoverAbove_of_not_legible hends hhere hp hnot
    rw [← discover_eq hstart] at he
    rw [haccounted e he] at hfault
    cases hfault
  · rintro ⟨files, hfiles⟩
    rw [hfiles]
    exact accounted_ok files

/-! ## Files laid over each other -/

/-- The first of some files that cannot be loaded. -/
def firstRefused? (parse : Toml.Reader) (d : Disk) (files : List Path) : Option Path :=
  files.find? fun p => !(loadDraft d p parse).isOk

/-- Of files that are laid over each other, the first that cannot be loaded decides. -/
theorem accounted_mergeFiles_iff (files : List Path) (draft : Draft) :
    Accounted (mergeFiles d draft files parse) ↔
      ∀ p, firstRefused? parse d files = some p → ReportableAt parse d p := by
  rw [mergeFiles]
  induction files generalizing draft with
  | nil => simp [firstRefused?, pure, Except.pure, accounted_ok]
  | cons p files ih =>
    rw [List.foldlM_cons, firstRefused?, List.find?_cons]
    cases hload : loadDraft d p parse with
    | error e =>
      have hp := @accounted_loadDraft_iff parse d p
      rw [hload, accounted_error_iff] at hp
      simpa [bind, Except.bind, Except.isOk, Except.toBool, accounted_error_iff] using hp
    | ok o => exact ih _

theorem loadMerged_eq {files : List Path} {inputs extra : List Path} {discovers : Bool}
    (hinputs : inputs.head?.getD (.ofNames d.cwd) = start)
    (hfiles : (if discovers then discover d start parse else .ok []) = .ok files) :
    loadMerged d inputs extra discovers parse =
      mergeFiles d Draft.defaults (files ++ extra) parse := by
  rw [loadMerged, mergeFiles, List.foldlM_append]
  dsimp only
  rw [hinputs]
  cases discovers with
  | true =>
    rw [if_pos rfl] at hfiles ⊢
    rw [hfiles]
    rfl
  | false =>
    obtain rfl : [] = files := by simpa using hfiles
    rfl

/-- The settings of a path are those of the files that are found and of further ones, and the first
of them that cannot be loaded decides. -/
theorem accounted_loadMerged_iff (hstart : startOf d start = .ok place) {inputs extra : List Path}
    (discovers : Bool) (hinputs : inputs.head?.getD (.ofNames d.cwd) = start) :
    Accounted (loadMerged d inputs extra discovers parse) ↔
      ∃ files, (if discovers then discover d start parse else .ok []) = .ok files ∧
        ∀ p, firstRefused? parse d (files ++ extra) = some p → ReportableAt parse d p := by
  cases hfiles : (if discovers then discover d start parse else .ok []) with
  | ok files =>
    rw [loadMerged_eq hinputs hfiles, accounted_mergeFiles_iff]
    simp
  | error e =>
    have hdiscovers : discovers = true := by
      by_contra hnot
      rw [if_neg hnot] at hfiles
      cases hfiles
    subst hdiscovers
    rw [if_pos rfl] at hfiles
    have hnot : ¬ Accounted (discover d start parse) := by
      rw [accounted_discover_iff hstart, hfiles]
      simp
    have hload : loadMerged d inputs extra true parse = .error e := by
      rw [loadMerged]
      dsimp only
      rw [hinputs, if_pos rfl, hfiles]
      rfl
    rw [hload, accounted_error_iff]
    rw [hfiles, accounted_error_iff] at hnot
    simpa using hnot

/-- Bytes that are legible and still not reportable hold a value under some setting that is too long
to be written. -/
theorem exists_long_of_not_reportable {name : Text} (hlegible : Legible parse name bytes)
    (h : ¬ Reportable parse name bytes) :
    ∃ t, settingsIn? parse name bytes = some t ∧
      ∃ x ∈ demands, ∃ v, x.value? t = some v ∧ v.isWritable = false := by
  by_contra hno
  refine h ⟨hlegible, fun t ht hcomplaint => hno ⟨t, ht, ?_⟩⟩
  exact exists_of_unwritable hcomplaint

/-- Whatever is wrong with settings files, it is said as an error in the settings, exactly where the
files are reportable: bytes that are no text, tools that are in no table, and a value that is too
long to be shown are the only causes of other errors. This is so of one file, which has no settings
only as a well-formed project file without the section; of the search, which has no error of its
own; and of the settings of a path, where the first file that cannot be loaded decides. It is so for
every reader of documents, and for one that gives a table or finds that a text is not well-formed
the bytes that are text are those in UTF-8. -/
theorem malformed_settings_reported_iff (parse : Toml.Reader) (d : Disk) :
    ((∀ s cause, parse s ≠ .error (.layout cause)) →
      ∀ bytes, IsText parse bytes ↔ Utf8.WellFormed bytes) ∧
    (∀ name bytes, Legible parse name bytes → ¬ Reportable parse name bytes →
      ∃ t, settingsIn? parse name bytes = some t ∧
        ∃ x ∈ demands, ∃ v, x.value? t = some v ∧ v.isWritable = false) ∧
    (∀ p, (Accounted (loadDraft d p parse) ↔ ReportableAt parse d p) ∧
      (loadDraft d p parse = .ok none ↔
        ∃ bytes t, d.read p = .ok bytes ∧ Legible parse p.name bytes ∧ p.name = projectFileName ∧
          tableOf? parse bytes = some t ∧ section? t = none)) ∧
    ∀ start place, startOf d start = .ok place →
      ∃ top rest, place = top ++ rest ∧ WalkEnds parse d top rest ∧
        ((∃ files, discover d start parse = .ok files) ↔
          ∀ here ∈ stations top rest, ∀ p ∈ settingsPaths here, LegibleAt parse d p) ∧
        ∀ (inputs extra : List Path) (discovers : Bool),
          inputs.head?.getD (.ofNames d.cwd) = start →
          (Accounted (loadMerged d inputs extra discovers parse) ↔
            ∃ files, (if discovers then discover d start parse else .ok []) = .ok files ∧
              ∀ p, firstRefused? parse d (files ++ extra) = some p → ReportableAt parse d p) := by
  refine ⟨fun hparse bytes => isText_iff_wellFormed hparse,
    fun name bytes => exists_long_of_not_reportable,
    fun p => ⟨accounted_loadDraft_iff, loadDraft_eq_none_iff⟩, fun start place hstart => ?_⟩
  obtain ⟨top, rest, rfl, hends⟩ := exists_walkEnds parse d place
  refine ⟨top, rest, rfl, hends, exists_discover_iff hstart hends, ?_⟩
  intro inputs extra discovers hinputs
  exact accounted_loadMerged_iff hstart discovers hinputs

/-! ## One directory with both files -/

/-- A disk with a project file and a file of settings. -/
def settingsPair (project own : Bytes) : Disk where
  root := .dir [(projectFileName, .file project), (configFileName, .file own)]
  cwd := []

section Pair

variable (project own : Bytes)

theorem read_settingsPair :
    (settingsPair project own).read (.ofNames [projectFileName]) = .ok project ∧
      (settingsPair project own).read (.ofNames [configFileName]) = .ok own :=
  ⟨Disk.read_ofNames rfl rfl rfl, Disk.read_ofNames rfl rfl rfl⟩

theorem startOf_settingsPair : startOf (settingsPair project own) (.ofNames []) = .ok [] :=
  startOf_of_dir rfl rfl rfl

theorem walkEnds_settingsPair : WalkEnds parse (settingsPair project own) [] [] :=
  ⟨Or.inl rfl, fun _ hne hup => absurd (List.prefix_nil.1 hup) hne⟩

variable {project own}

theorem reportableAt_project_iff :
    ReportableAt parse (settingsPair project own) (.ofNames [projectFileName]) ↔
      Reportable parse projectFileName project := by
  have hnull : hasNull (.ofNames [projectFileName]) = false := by decide
  have hname : (Path.ofNames [projectFileName]).name = projectFileName := rfl
  simp [ReportableAt, hnull, (read_settingsPair project own).1, hname]

theorem reportableAt_own_iff :
    ReportableAt parse (settingsPair project own) (.ofNames [configFileName]) ↔
      Reportable parse configFileName own := by
  have hnull : hasNull (.ofNames [configFileName]) = false := by decide
  have hname : (Path.ofNames [configFileName]).name = configFileName := rfl
  simp [ReportableAt, hnull, (read_settingsPair project own).2, hname]

theorem legible_settingsPair_iff :
    (∀ here ∈ stations [] [], ∀ p ∈ settingsPaths here,
        LegibleAt parse (settingsPair project own) p) ↔
      Legible parse projectFileName project ∧ Legible parse configFileName own := by
  have hproject : LegibleAt parse (settingsPair project own) (.ofNames [projectFileName]) ↔
      Legible parse projectFileName project := by
    have hname : (Path.ofNames [projectFileName]).name = projectFileName := rfl
    simp [LegibleAt, (read_settingsPair project own).1, hname]
  have hown : LegibleAt parse (settingsPair project own) (.ofNames [configFileName]) ↔
      Legible parse configFileName own := by
    have hname : (Path.ofNames [configFileName]).name = configFileName := rfl
    simp [LegibleAt, (read_settingsPair project own).2, hname]
  simp [stations, settingsPaths, hproject, hown]

theorem exists_discover_settingsPair_iff :
    (∃ files, discover (settingsPair project own) (.ofNames []) parse = .ok files) ↔
      Legible parse projectFileName project ∧ Legible parse configFileName own := by
  rw [exists_discover_iff (startOf_settingsPair project own) (walkEnds_settingsPair project own),
    legible_settingsPair_iff]

theorem discover_settingsPair (hproject : Legible parse projectFileName project)
    (hown : Legible parse configFileName own) :
    discover (settingsPair project own) (.ofNames []) parse =
      .ok (settingsFiles parse (settingsPair project own) []) := by
  have habove := discoverAbove_eq (walkEnds_settingsPair project own)
    (legible_settingsPair_iff.2 ⟨hproject, hown⟩)
  rw [discover_eq (startOf_settingsPair project own)]
  simpa [stations] using habove

end Pair

/-- A project file with a number where a section has to be, and a file of settings that is no
document: the search comes to its end, both are refused, and what is said of them is said as an
error in the settings. A reader without errors of its own asks for no more than UTF-8. -/
theorem malformed_settings_reported_in_pair :
    let project := Utf8.encode "[tool.licensemark]\nkeywords = 3\n".toList
    let own := Utf8.encode "[keywords\n".toList
    let d := settingsPair project own
    let here := Path.ofNames []
    let plain : Toml.Reader := fun s => (Toml.read s).mapError fun _ => .malformed
    startOf d here = .ok [] ∧
      discover d here = .ok (settingsFiles Toml.read d []) ∧
      (∀ p ∈ settingsPaths [], Accounted (loadDraft d p) ∧ (loadDraft d p).isOk = false) ∧
      Accounted (loadMerged d [here] [] true) ∧
      ∀ bytes, IsText plain bytes ↔ Utf8.WellFormed bytes := by
  intro project own d here plain
  have hproject : Reportable Toml.read projectFileName project := by decide +kernel
  have hown : Reportable Toml.read configFileName own := by decide +kernel
  have hat : ∀ p ∈ settingsPaths [], ReportableAt Toml.read d p := by
    simp only [settingsPaths, List.nil_append, List.forall_mem_cons]
    exact ⟨reportableAt_project_iff.2 hproject, reportableAt_own_iff.2 hown, List.forall_mem_nil _⟩
  have hrefused : ∀ p ∈ settingsPaths [], (loadDraft d p).isOk = false := by
    simp only [settingsPaths, List.nil_append, List.forall_mem_cons]
    refine ⟨?_, ?_, List.forall_mem_nil _⟩
    · rw [loadDraft_eq (read_settingsPair project own).1 hproject.toLegible]
      decide +kernel
    · rw [loadDraft_eq (read_settingsPair project own).2 hown.toLegible]
      decide +kernel
  have hstart : startOf d here = .ok [] := startOf_settingsPair project own
  have hfiles : discover d here = .ok (settingsFiles Toml.read d []) :=
    discover_settingsPair hproject.toLegible hown.toLegible
  obtain ⟨-, -, hdraft, hsearch⟩ := malformed_settings_reported_iff Toml.read d
  obtain ⟨-, -, -, -, -, hmerged⟩ := hsearch here [] hstart
  have hplain : ∀ s cause, plain s ≠ .error (.layout cause) := by
    intro s cause hlayout
    change (Toml.read s).mapError (fun _ => Toml.ReadError.malformed) = _ at hlayout
    cases hread : Toml.read s with
    | ok t => rw [hread] at hlayout; cases hlayout
    | error e => rw [hread] at hlayout; cases hlayout
  refine ⟨hstart, hfiles, fun p hp => ⟨(hdraft p).1.2 (hat p hp), hrefused p hp⟩, ?_,
    (malformed_settings_reported_iff plain d).1 hplain⟩
  refine (hmerged [here] [] true rfl).2 ⟨_, hfiles, fun p hp => hat p ?_⟩
  rw [List.append_nil] at hp
  exact List.mem_of_mem_filter (List.mem_of_find?_eq_some hp)

/-- A file of settings that is no text, and a project file with a number in place of its tools: each
of them ends the search, and cannot be loaded, with an error that is not in the settings. -/
theorem unreadable_settings_not_reported :
    let binary := settingsPair [] [0xff]
    let number := settingsPair (Utf8.encode "tool = 1\n".toList) []
    let here := Path.ofNames []
    (¬ Accounted (discover binary here) ∧
      ¬ Accounted (loadDraft binary (.ofNames [configFileName])) ∧
      ¬ Accounted (loadMerged binary [here] [] true)) ∧
    ¬ Accounted (discover number here) ∧
      ¬ Accounted (loadDraft number (.ofNames [projectFileName])) ∧
      ¬ Accounted (loadMerged number [here] [] true) := by
  intro binary number here
  have hbinary : ¬ Legible Toml.read configFileName [0xff] := by decide +kernel
  have hnumber : ¬ Legible Toml.read projectFileName (Utf8.encode "tool = 1\n".toList) := by
    decide +kernel
  have hsearch : ¬ ∃ files, discover binary here = .ok files := by
    rw [exists_discover_settingsPair_iff]
    exact fun h => hbinary h.2
  have hsearch' : ¬ ∃ files, discover number here = .ok files := by
    rw [exists_discover_settingsPair_iff]
    exact fun h => hnumber h.1
  have hstart : startOf binary here = .ok [] := startOf_settingsPair _ _
  have hstart' : startOf number here = .ok [] := startOf_settingsPair _ _
  refine ⟨⟨?_, ?_, ?_⟩, ?_, ?_, ?_⟩
  · rwa [accounted_discover_iff hstart]
  · rw [accounted_loadDraft_iff, reportableAt_own_iff]
    exact fun h => hbinary h.toLegible
  · rw [accounted_loadMerged_iff hstart true rfl]
    exact fun ⟨files, hfiles, _⟩ => hsearch ⟨files, hfiles⟩
  · rwa [accounted_discover_iff hstart']
  · rw [accounted_loadDraft_iff, reportableAt_project_iff]
    exact fun h => hnumber h.toLegible
  · rw [accounted_loadMerged_iff hstart' true rfl]
    exact fun ⟨files, hfiles, _⟩ => hsearch' ⟨files, hfiles⟩

end Letterhead

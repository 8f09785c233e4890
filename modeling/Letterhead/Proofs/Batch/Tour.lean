import Mathlib.Data.List.Lex
import Letterhead.Proofs.Batch.DryRun
import Letterhead.Proofs.Batch.Stops

/-
  What a walk comes to. The walk through a directory processes each entry below it that is no
  directory, when no name on the way is hidden or excluded (`Reaches`), and it does so with the
  definitions of the nearest directory on the way whose definition file can be loaded, or with
  those from above (`Governs`). It processes each entry once, a directory at a time and the entries
  of each directory in the order of their names, which is the lexicographic order of the names that
  lead there. So the description and the walk are the same (`processDirectory_tours`), unless a
  definition file on the way is refused.
-/

namespace Letterhead

open Letterhead.Tree

variable {d : Disk} {j : Job} {dir p : Path} {name : Text} {names : List Text}
  {defs s : Option DefinitionSet} {depth : Nat}

/-! ## Ways down -/

/-- A walk goes on to an entry of a directory, which is neither hidden nor excluded. -/
structure Passes (j : Job) (d : Disk) (dir : Path) (name : Text) : Prop where
  listed : d.Listed dir name
  visible : isHidden name = false
  included : j.excludes d (dir.child name) = .ok false

/-- Names that lead a walk down from a directory. -/
def Reaches (j : Job) (d : Disk) (dir : Path) (names : List Text) : Prop :=
  ∀ up name, up ++ [name] <+: names → Passes j d (dir.descend up) name

theorem reaches_nil (j : Job) (d : Disk) (dir : Path) : Reaches j d dir [] := by
  intro up name h
  exact absurd (List.prefix_nil.1 h) (by simp)

theorem reaches_cons :
    Reaches j d dir (name :: names) ↔ Passes j d dir name ∧ Reaches j d (dir.child name) names := by
  constructor
  · intro h
    refine ⟨dir.descend_nil ▸ h [] name (by simp), fun up other hup => ?_⟩
    rw [Path.child_descend]
    exact h (name :: up) other (by simpa using hup)
  · rintro ⟨hname, h⟩ up other hup
    cases up with
    | nil =>
      obtain rfl : other = name := by simpa using hup
      rwa [Path.descend_nil]
    | cons first up =>
      rw [List.cons_append, List.cons_prefix_cons] at hup
      obtain ⟨rfl, hup⟩ := hup
      rw [← Path.child_descend]
      exact h up other hup

/-! ## Definitions from above -/

/-- The definitions for the entries of the directory that names lead to from another one: those of
the nearest directory on the way that brings some along, else those that hold above. -/
inductive Governs (j : Job) (d : Disk) (dir : Path) (defs : Option DefinitionSet)
    (names : List Text) : Option DefinitionSet → Prop where
  | brought {up : List Text} {own : DefinitionSet} (way : up <+: names)
      (brings : Brings j d (dir.descend up) own)
      (nearest : ∀ below other, below <+: names → Brings j d (dir.descend below) other →
        below.length ≤ up.length) : Governs j d dir defs names (some own)
  | inherited (none_brings : ∀ up own, up <+: names → ¬ Brings j d (dir.descend up) own) :
      Governs j d dir defs names defs

theorem governs_nil : Governs j d dir defs [] s ↔ s = (brought? j d dir).or defs := by
  constructor
  · intro h
    cases h with
    | brought way brings nearest =>
      obtain rfl := List.prefix_nil.1 way
      rw [Path.descend_nil, ← brought?_eq_some_iff] at brings
      rw [brings, Option.some_or]
    | inherited none_brings =>
      have hnone : brought? j d dir = none := brought?_eq_none_iff.2 fun own =>
        dir.descend_nil ▸ none_brings [] own List.nil_prefix
      rw [hnone, Option.none_or]
  · rintro rfl
    cases hown : brought? j d dir with
    | none =>
      refine .inherited fun up own hup => ?_
      obtain rfl := List.prefix_nil.1 hup
      rw [Path.descend_nil]
      exact brought?_eq_none_iff.1 hown own
    | some own =>
      have hbrings : Brings j d (dir.descend []) own := by
        rwa [Path.descend_nil, ← brought?_eq_some_iff]
      exact .brought List.nil_prefix hbrings fun below _ hbelow _ => hbelow.length_le

theorem governs_cons :
    Governs j d dir defs (name :: names) s ↔
      Governs j d (dir.child name) ((brought? j d dir).or defs) names s := by
  constructor
  · intro h
    cases h with
    | @brought up own way brings nearest =>
      cases up with
      | nil =>
        -- No directory below brings any, so those of this one hold there.
        have hown : brought? j d dir = some own :=
          brought?_eq_some_iff.2 (dir.descend_nil ▸ brings)
        rw [hown, Option.some_or]
        refine .inherited fun below other hbelow hother => ?_
        rw [Path.child_descend] at hother
        exact absurd (nearest _ other (List.cons_prefix_cons.2 ⟨rfl, hbelow⟩) hother) (by simp)
      | cons first up =>
        obtain ⟨rfl, hup⟩ := List.cons_prefix_cons.1 way
        refine .brought hup (dir.child_descend first up ▸ brings) ?_
        intro below other hbelow hother
        rw [Path.child_descend] at hother
        simpa using nearest _ other (List.cons_prefix_cons.2 ⟨rfl, hbelow⟩) hother
    | inherited none_brings =>
      have hnone : brought? j d dir = none := brought?_eq_none_iff.2 fun own =>
        dir.descend_nil ▸ none_brings [] own List.nil_prefix
      rw [hnone, Option.none_or]
      refine .inherited fun below other hbelow hother => ?_
      rw [Path.child_descend] at hother
      exact none_brings _ other (List.cons_prefix_cons.2 ⟨rfl, hbelow⟩) hother
  · intro h
    cases h with
    | @brought up own way brings nearest =>
      rw [Path.child_descend] at brings
      refine .brought (List.cons_prefix_cons.2 ⟨rfl, way⟩) brings ?_
      intro below other hbelow hother
      cases below with
      | nil => exact Nat.zero_le _
      | cons first below =>
        obtain ⟨rfl, hrest⟩ := List.cons_prefix_cons.1 hbelow
        rw [← Path.child_descend] at hother
        exact Nat.succ_le_succ (nearest below other hrest hother)
    | inherited none_brings =>
      have hbelow : ∀ first below other, first :: below <+: name :: names →
          ¬ Brings j d (dir.descend (first :: below)) other := by
        intro first below other hway
        obtain ⟨rfl, hrest⟩ := List.cons_prefix_cons.1 hway
        rw [← Path.child_descend]
        exact none_brings below other hrest
      cases hown : brought? j d dir with
      | none =>
        refine .inherited fun up own hup => ?_
        cases up with
        | nil =>
          rw [Path.descend_nil]
          exact brought?_eq_none_iff.1 hown own
        | cons first up => exact hbelow first up own hup
      | some own =>
        have hbrings : Brings j d (dir.descend []) own := by
          rwa [Path.descend_nil, ← brought?_eq_some_iff]
        refine .brought List.nil_prefix hbrings fun below other hway hother => ?_
        cases below with
        | nil => exact Nat.le_refl _
        | cons first below => exact absurd hother (hbelow first below other hway)

/-- The definitions that govern a directory are determined. -/
theorem Governs.unique {s' : Option DefinitionSet} (h : Governs j d dir defs names s)
    (h' : Governs j d dir defs names s') : s = s' := by
  induction names generalizing dir defs with
  | nil => rw [governs_nil.1 h, governs_nil.1 h']
  | cons name names ih => exact ih (governs_cons.1 h) (governs_cons.1 h')

/-! ## Stops -/

theorem mem_stopsAt_iff {down : Path → List Stop} {t : Stop} :
    t ∈ stopsAt j d down defs (dir.child name) ↔
      (isHidden name = false ∧ j.excludes d (dir.child name) = .ok false) ∧
        if d.isDir (dir.child name) then t ∈ down (dir.child name)
        else t = .entry (dir.child name) defs := by
  rw [stopsAt, Path.name_child]
  by_cases hhidden : isHidden name = true
  · simp [hhidden]
  · rw [if_neg hhidden]
    rcases j.excludes d (dir.child name) with cause | _ | _
    · simp
    · by_cases hdir : d.isDir (dir.child name) = true
      · simp [hhidden, hdir]
      · simp [hhidden, hdir]
    · simp

theorem mem_stops_succ_iff {t : Stop} :
    t ∈ stops j d (depth + 1) defs dir ↔
      t = .directory dir ∨ ∃ name, Passes j d dir name ∧
        if d.isDir (dir.child name) then
          t ∈ stops j d depth ((brought? j d dir).or defs) (dir.child name)
        else t = .entry (dir.child name) ((brought? j d dir).or defs) := by
  rw [stops, List.mem_cons, List.mem_flatMap]
  refine or_congr_right (exists_congr fun name => ?_)
  rw [mem_stopsAt_iff, ← and_assoc]
  refine and_congr_left fun _ => ?_
  have hlisted : name ∈ (d.list dir).toOption.getD [] ↔ d.Listed dir name := by
    cases hlist : d.list dir with
    | error fault =>
      refine iff_of_false List.not_mem_nil ?_
      rintro ⟨_, h, -⟩
      rw [hlist] at h
      cases h
    | ok names => exact (Disk.listed_iff hlist).symm
  rw [hlisted]
  exact ⟨fun h => ⟨h.1, h.2.1, h.2.2⟩, fun h => ⟨h.listed, h.visible, h.included⟩⟩

/-- The stop that names lead to: a directory to enter, or an entry to process with the definitions
that govern the directory it is in. -/
def Ends (j : Job) (d : Disk) (dir : Path) (defs : Option DefinitionSet) (names : List Text)
    (t : Stop) : Prop :=
  (d.isDir (dir.descend names) = true ∧ t = .directory (dir.descend names)) ∨
    d.isDir (dir.descend names) = false ∧
      ∃ s, Governs j d dir defs names.dropLast s ∧ t = .entry (dir.descend names) s

theorem ends_nil (hdir : d.isDir dir = true) {t : Stop} :
    Ends j d dir defs [] t ↔ t = .directory dir := by
  simp [Ends, hdir]

theorem ends_singleton (hchild : d.isDir (dir.child name) = false) {t : Stop} :
    Ends j d dir defs [name] t ↔ t = .entry (dir.child name) ((brought? j d dir).or defs) := by
  have hpath : dir.descend [name] = dir.child name := rfl
  simp [Ends, hpath, hchild, governs_nil]

theorem ends_cons (hchild : d.isDir (dir.child name) = true) {t : Stop} :
    Ends j d dir defs (name :: names) t ↔
      Ends j d (dir.child name) ((brought? j d dir).or defs) names t := by
  cases names with
  | nil =>
    have hpath : dir.descend [name] = dir.child name := rfl
    rw [ends_nil hchild]
    simp [Ends, hpath, hchild]
  | cons other names =>
    simp only [Ends, Path.child_descend, List.dropLast_cons_cons, governs_cons]

/-- The stops of a walk with room enough are those that names lead to. -/
theorem mem_stops_iff (hlinks : d.root.linkCount = 0) (hdir : d.isDir dir = true)
    (hdepth : d.heightAt dir ≤ depth) {t : Stop} :
    t ∈ stops j d depth defs dir ↔ ∃ names, Reaches j d dir names ∧ Ends j d dir defs names t := by
  induction depth generalizing dir defs with
  | zero => exact absurd (Nat.le_zero.1 hdepth) (Nat.pos_iff_ne_zero.1 (Disk.heightAt_pos hdir))
  | succ depth ih =>
    have hbelow : ∀ {name}, Passes j d dir name → d.isDir (dir.child name) = true →
        (t ∈ stops j d depth ((brought? j d dir).or defs) (dir.child name) ↔
          ∃ names, Reaches j d (dir.child name) names ∧ Ends j d dir defs (name :: names) t) := by
      intro name hname hchild
      have hlt := Disk.heightAt_child_lt hlinks (ne_up_of_not_isHidden hname.visible) hchild
      rw [ih hchild (by omega)]
      simp only [ends_cons hchild]
    rw [mem_stops_succ_iff]
    constructor
    · rintro (rfl | ⟨name, hname, ht⟩)
      · exact ⟨[], reaches_nil j d dir, (ends_nil hdir).2 rfl⟩
      · by_cases hchild : d.isDir (dir.child name) = true
        · rw [if_pos hchild, hbelow hname hchild] at ht
          obtain ⟨names, hnames, hends⟩ := ht
          exact ⟨name :: names, reaches_cons.2 ⟨hname, hnames⟩, hends⟩
        · rw [if_neg hchild] at ht
          exact ⟨[name], reaches_cons.2 ⟨hname, reaches_nil j d _⟩,
            (ends_singleton (Bool.eq_false_iff.2 hchild)).2 ht⟩
    · rintro ⟨names, hreaches, hends⟩
      cases names with
      | nil => exact Or.inl ((ends_nil hdir).1 hends)
      | cons name names =>
        obtain ⟨hname, hnames⟩ := reaches_cons.1 hreaches
        refine Or.inr ⟨name, hname, ?_⟩
        by_cases hchild : d.isDir (dir.child name) = true
        · rw [if_pos hchild, hbelow hname hchild]
          exact ⟨names, hnames, hends⟩
        · rw [if_neg hchild]
          cases names with
          | nil => exact (ends_singleton (Bool.eq_false_iff.2 hchild)).1 hends
          | cons other names =>
            exact absurd (Disk.isDir_of_listed (reaches_cons.1 hnames).1.listed) hchild

/-! ## The order of stops -/

/-- One stop comes before another one in the lexicographic order of the names that lead there. -/
def Stop.Before (t u : Stop) : Prop := List.Lex Text.Before t.path.parts u.path.parts

theorem prefix_path_of_mem_stops {t : Stop} (h : t ∈ stops j d depth defs dir) :
    dir.parts <+: t.path.parts := by
  induction depth generalizing dir defs with
  | zero => cases h
  | succ depth ih =>
    obtain rfl | ⟨name, -, ht⟩ := mem_stops_succ_iff.1 h
    · exact List.prefix_rfl
    · have hchild : dir.parts <+: (dir.child name).parts := List.prefix_append _ _
      split at ht
      · exact hchild.trans (ih ht)
      · rw [ht]
        exact hchild

theorem prefix_path_of_mem_stopsAt {t : Stop}
    (h : t ∈ stopsAt j d (stops j d depth defs) defs (dir.child name)) :
    (dir.child name).parts <+: t.path.parts := by
  obtain ⟨-, ht⟩ := mem_stopsAt_iff.1 h
  split at ht
  · exact prefix_path_of_mem_stops ht
  · rw [ht]
    exact List.prefix_rfl

/-- A directory comes before its entries. -/
theorem before_of_child {t u : Stop} (ht : t.path = dir)
    (hu : (dir.child name).parts <+: u.path.parts) : t.Before u := by
  obtain ⟨rest, hrest⟩ := hu
  rw [Stop.Before, ht, ← hrest, Path.child, List.append_assoc]
  have h := List.Lex.append_left Text.Before (List.Lex.nil (a := name) (l := rest)) dir.parts
  rwa [List.append_nil] at h

/-- What is below one entry comes before what is below a later one. -/
theorem before_of_before {t u : Stop} {name' : Text} (h : name.Before name')
    (ht : (dir.child name).parts <+: t.path.parts)
    (hu : (dir.child name').parts <+: u.path.parts) : t.Before u := by
  obtain ⟨rest, hrest⟩ := ht
  obtain ⟨rest', hrest'⟩ := hu
  rw [Stop.Before, ← hrest, ← hrest', Path.child, Path.child, List.append_assoc,
    List.append_assoc]
  exact List.Lex.append_left Text.Before (List.Lex.rel h) dir.parts

/-- A walk goes depth first, and through the entries of each directory in the order of their
names. -/
theorem sorted_stops (hdistinct : d.root.namesDistinct = true) (depth : Nat)
    (defs : Option DefinitionSet) (dir : Path) :
    (stops j d depth defs dir).Pairwise Stop.Before := by
  induction depth generalizing defs dir with
  | zero => exact List.Pairwise.nil
  | succ depth ih =>
    have hnames : ((d.list dir).toOption.getD []).Pairwise Text.Before := by
      cases hlist : d.list dir with
      | error fault => exact List.Pairwise.nil
      | ok names => exact Disk.sorted_of_list hdistinct hlist
    rw [stops]
    refine List.pairwise_cons.2 ⟨fun u hu => ?_, List.pairwise_flatMap.2 ⟨fun name _ => ?_, ?_⟩⟩
    · obtain ⟨name, -, hname⟩ := List.mem_flatMap.1 hu
      exact before_of_child rfl (prefix_path_of_mem_stopsAt hname)
    · rw [stopsAt]
      split
      · exact List.Pairwise.nil
      · split
        · split
          · exact ih _ _
          · exact List.pairwise_singleton _ _
        · exact List.Pairwise.nil
    · exact hnames.imp fun hbefore t ht u hu =>
        before_of_before hbefore (prefix_path_of_mem_stopsAt ht) (prefix_path_of_mem_stopsAt hu)

theorem Stop.before_irrefl (t : Stop) : ¬ t.Before t := by
  intro h
  rw [Stop.Before] at h
  generalize t.path.parts = names at h
  induction names with
  | nil => cases h
  | cons name names ih =>
    cases h with
    | cons h => exact ih h
    | rel h => exact h.2 rfl

/-! ## The walk and its description -/

theorem entriesBelow_stops (depth : Nat) (defs : Option DefinitionSet) (dir : Path) :
    Batch.EntriesBelow (stops j d depth defs dir) := by
  induction depth generalizing defs dir with
  | zero => exact fun p s h => nomatch h
  | succ depth ih =>
    intro p s h
    obtain h | ⟨name, hname, h⟩ := mem_stops_succ_iff.1 h
    · cases h
    · split at h
      · exact ih _ _ p s h
      · cases h
        exact ⟨dir, name, rfl, ne_up_of_not_isHidden hname.visible⟩

/-- The directories on a tour that bring definitions along, each once. -/
theorem exists_bringing (j : Job) (d : Disk) {ss : List Stop} (h : ss.Pairwise Stop.Before) :
    ∃ own : List Path, own.Nodup ∧
      (∀ p, p ∈ own ↔ .directory p ∈ ss ∧ ∃ s, Brings j d p s) ∧
      own.length = (ss.filterMap Stop.directory?).countP fun dir => (brought? j d dir).isSome := by
  have hdirectory : ∀ {t : Stop} {p : Path}, t.directory? = some p ↔ t = .directory p := by
    intro t p
    cases t <;> simp [Stop.directory?]
  have hnodup : (ss.filterMap Stop.directory?).Nodup := by
    refine h.filterMap _ fun t u hbefore p hp q hq hpq => ?_
    rw [hdirectory.1 hp, hdirectory.1 hq, hpq] at hbefore
    exact Stop.before_irrefl _ hbefore
  refine ⟨_, hnodup.filter _, fun p => ?_, List.countP_eq_length_filter.symm⟩
  rw [List.mem_filter, List.mem_filterMap, Option.isSome_iff_exists]
  simp only [hdirectory, exists_eq_right, brought?_eq_some_iff]

/-- A walk that is never cancelled and the description of what it does. Names lead from its start
to directories and to other entries, which are its stops; it comes to each once, in the
lexicographic order of the names. It enters the directories, and it processes each other entry with
the definitions of the nearest directory whose definition file can be loaded, else with those from
above. When no definition file on the way is refused there is one outcome for each such entry and
no other one, and the directories that bring definitions along are counted. Otherwise the walk ends
on the way. -/
theorem Batch.processDirectory_tours {b : Batch} (defs : Option DefinitionSet)
    (hlinks : b.disk.root.linkCount = 0) (hdistinct : b.disk.root.namesDistinct = true)
    (hproper : b.disk.root.namesProper = true) (hdir : b.disk.isDir dir = true)
    (hcancels : ∀ n, j.cancels n = false) (hinterrupts : j.interruptsAfterWrite = false)
    (huninterrupted : b.interrupted = false) (hbroken : b.isBroken = false)
    (hanswered : j.decider = .user → (b.processDirectory j true defs dir).aborted = false) :
    let final := b.processDirectory j true defs dir
    ∃ ss : List Stop, final = b.tour j ss ∧ ss.Pairwise Stop.Before ∧
      (∀ t, t ∈ ss ↔ ∃ names, Reaches j b.disk dir names ∧ Ends j b.disk dir defs names t) ∧
      (final.fault = none ↔ ∀ names, Reaches j b.disk dir names →
        b.disk.isDir (dir.descend names) = true → ¬ Refuses j b.disk (dir.descend names)) ∧
      (final.fault = none →
        final.outcomes.map (·.path) = b.outcomes.map (·.path) ++ ss.filterMap Stop.entry? ∧
        ∃ own : List Path, own.Nodup ∧
          (∀ p, p ∈ own ↔ .directory p ∈ ss ∧ ∃ s, Brings j b.disk p s) ∧
          final.used = b.used + own.length) := by
  intro final
  have hdepth := b.disk.heightAt_le_maxDepth dir
  have hstart : OnCourse b.disk b := ⟨.refl _, huninterrupted⟩
  have hstops : ∀ t, t ∈ stops j b.disk b.disk.maxDepth defs dir ↔
      ∃ names, Reaches j b.disk dir names ∧ Ends j b.disk dir defs names t :=
    fun _ => mem_stops_iff hlinks hdir hdepth
  have hsorted := sorted_stops (j := j) hdistinct b.disk.maxDepth defs dir
  have hentries := entriesBelow_stops (j := j) (d := b.disk) b.disk.maxDepth defs dir
  have hfinal : final = b.tour j (stops j b.disk b.disk.maxDepth defs dir) :=
    (walk_follows hlinks hcancels hinterrupts hproper b.disk.maxDepth defs hdir b hstart
      hbroken).1
  generalize stops j b.disk b.disk.maxDepth defs dir = ss at hstops hsorted hentries hfinal
  obtain ⟨haborted, hfault⟩ := isBroken_eq_false_iff.1 hbroken
  have hended : (b.tour j ss).aborted = false := by
    rcases hdecider : j.decider with f | _
    · exact aborted_tour_of_rule hdecider haborted ss
    · exact hfinal ▸ hanswered hdecider
  have hrecords := tour_records hlinks hinterrupts hentries hstart hfault hended
  obtain ⟨own, hown, hmem, hlength⟩ := exists_bringing j b.disk hsorted
  rw [← hfinal] at hrecords
  refine ⟨ss, hfinal, hsorted, hstops, ?_, fun hnone => ⟨hrecords.outcomes hnone, own, hown, hmem,
    hlength ▸ hrecords.used hnone⟩⟩
  rw [hrecords.fault_iff]
  constructor
  · exact fun h names hnames hdirectory =>
      h _ ((hstops _).2 ⟨names, hnames, Or.inl ⟨hdirectory, rfl⟩⟩)
  · intro h p hp
    obtain ⟨names, hnames, ⟨hdirectory, heq⟩ | ⟨-, s, -, heq⟩⟩ := (hstops _).1 hp
    · rw [Stop.directory.inj heq]
      exact h names hnames hdirectory
    · cases heq

/-- A directory with a source file and a definition file. -/
def licensedScope : Disk where
  root := .dir [("a.cs".toList, .file (Utf8.encode "class A {}\n".toList)),
    ("x.licenseheader".toList, .file (Utf8.encode "extensions: .cs\n// License: MIT\n".toList))]
  cwd := []

/-- The plain job, with a root, that reads definition files in a given encoding. -/
def scopeJob (encoding : Option Text) : Job :=
  { plainJob with root := some [], config := { plainJob.config with encoding := encoding } }

section Scope

variable {encoding : Option Text}

theorem locate_licensedScope {names : List Text} {n : Node}
    (h : licensedScope.node? names = some n) :
    licensedScope.locate (.ofNames names) = .ok (names, n) :=
  Disk.locate_ofNames rfl (by decide) h

theorem listed_licensedScope :
    licensedScope.Listed (.ofNames []) name ↔
      name = "a.cs".toList ∨ name = "x.licenseheader".toList := by
  rw [Disk.listed_iff_of_locate (locate_licensedScope rfl)]
  simp

theorem isDir_root_licensedScope : licensedScope.isDir (.ofNames []) = true := by
  rw [Disk.isDir, locate_licensedScope rfl]
  rfl

theorem isDir_licensedScope (h : licensedScope.Listed (.ofNames []) name) :
    licensedScope.isDir (.ofNames [name]) = false := by
  obtain rfl | rfl := listed_licensedScope.1 h
  · rw [Disk.isDir, locate_licensedScope rfl]
  · rw [Disk.isDir, locate_licensedScope rfl]

theorem definedBy_licensedScope :
    DefinedBy licensedScope (.ofNames []) "x.licenseheader".toList := by
  have hpath : (Path.ofNames []).child "x.licenseheader".toList =
    .ofNames ["x.licenseheader".toList] := rfl
  have hfile : IsDefinitionFile licensedScope (.ofNames []) "x.licenseheader".toList := {
    listed := listed_licensedScope.2 (Or.inr rfl)
    extension := by decide
    isFile := by rw [hpath, Disk.isFile, locate_licensedScope rfl] }
  refine hfile.definedBy fun other hother => ?_
  obtain rfl | rfl := listed_licensedScope.1 hother.listed
  · exact absurd hother.extension (by decide)
  · rfl

theorem reaches_licensedScope :
    Reaches (scopeJob encoding) licensedScope (.ofNames []) ["a.cs".toList] :=
  reaches_cons.2 ⟨⟨listed_licensedScope.2 (Or.inl rfl), by decide, rfl⟩, reaches_nil _ _ _⟩

theorem read_licensedScope :
    licensedScope.read ((Path.ofNames []).child "x.licenseheader".toList) =
      .ok (Utf8.encode "extensions: .cs\n// License: MIT\n".toList) := by
  have hpath : (Path.ofNames []).child "x.licenseheader".toList =
    .ofNames ["x.licenseheader".toList] := rfl
  rw [hpath, Disk.read, locate_licensedScope rfl]

theorem refusal?_scopeJob (d : Disk) (p : Path) : (scopeJob encoding).host.refusal? d p = none :=
  Host.refusal?_eq_none (fun _ => rfl) d p

theorem brings_licensedScope :
    Brings (scopeJob none) licensedScope (.ofNames [])
      (.ofText "extensions: .cs\n// License: MIT\n".toList
        (some (.ofNames ["x.licenseheader".toList]))) := by
  refine ⟨_, definedBy_licensedScope, ?_⟩
  rw [DefinitionSet.load, read_licensedScope, refusal?_scopeJob]
  decide

theorem fails_licensedScope :
    Fails (scopeJob (some "utf-16".toList)) licensedScope (.ofNames [])
      ⟨.ofNames ["x.licenseheader".toList], .refused⟩ := by
  refine ⟨_, definedBy_licensedScope, ?_⟩
  rw [DefinitionSet.load, read_licensedScope, refusal?_scopeJob]
  decide +kernel

/-- The source file below the root is reached with the definitions of the root, the one directory
that brings some along. -/
theorem processDirectory_tours_scope :
    let d := licensedScope
    let j := scopeJob none
    let final := Batch.processDirectory j true none { disk := d } (.ofNames [])
    d.root.linkCount = 0 ∧ d.root.namesDistinct = true ∧ d.root.namesProper = true ∧
      d.isDir (.ofNames []) = true ∧ (∀ n, j.cancels n = false) ∧
      j.interruptsAfterWrite = false ∧ (j.decider = .user → final.aborted = false) ∧
      final.fault = none ∧ .ofNames ["a.cs".toList] ∈ final.outcomes.map (·.path) := by
  intro d j final
  have hdir : d.isDir (.ofNames []) = true := isDir_root_licensedScope
  have hcancels : ∀ n, j.cancels n = false := fun _ => rfl
  have hanswered : j.decider = .user → final.aborted = false := nofun
  obtain ⟨ss, -, -, hstops, hfault, hrecords⟩ := Batch.processDirectory_tours (j := j)
    (b := { disk := d }) none rfl (by decide) (by decide) hdir hcancels rfl rfl rfl hanswered
  have hnone : final.fault = none := hfault.2 fun names hnames hdirectory => by
    cases names with
    | nil =>
      rw [Path.descend_nil]
      exact fun ⟨_, hfails, _⟩ => brings_licensedScope.not_fails hfails
    | cons name names =>
      have hfile := isDir_licensedScope (reaches_cons.1 hnames).1.listed
      cases names with
      | nil => exact absurd hdirectory (Bool.eq_false_iff.1 hfile)
      | cons other names =>
        have hlisted := (reaches_cons.1 (reaches_cons.1 hnames).2).1.listed
        exact absurd (Disk.isDir_of_listed hlisted) (Bool.eq_false_iff.1 hfile)
  refine ⟨rfl, by decide, by decide, hdir, hcancels, rfl, hanswered, hnone, ?_⟩
  rw [(hrecords hnone).1]
  refine List.mem_filterMap.2 ⟨.entry (.ofNames ["a.cs".toList]) (brought? j d (.ofNames [])), ?_,
    rfl⟩
  refine (hstops _).2 ⟨["a.cs".toList], reaches_licensedScope, Or.inr ⟨?_, _, ?_, rfl⟩⟩
  · exact isDir_licensedScope (listed_licensedScope.2 (Or.inl rfl))
  · exact governs_nil.2 (Option.or_none).symm

/-- A walk in which the definition file is refused by its encoding. The source file is reached, but
nothing is recorded for it: the walk ends with the refusal. -/
theorem processDirectory_over_refusal :
    let d := licensedScope
    let j := scopeJob (some "utf-16".toList)
    let above : DefinitionSet := .ofText "extensions: .cs\n// License: Apache\n".toList
    let final := Batch.processDirectory j true (some above) { disk := d } (.ofNames [])
    d.root.linkCount = 0 ∧ (∀ n, j.cancels n = false) ∧
      Reaches j d (.ofNames []) ["a.cs".toList] ∧
      d.isDir (.ofNames ["a.cs".toList]) = false ∧ final.outcomes = [] ∧
      final.fault =
        some (.definitions ⟨.ofNames ["x.licenseheader".toList], .refused⟩) := by
  intro d j above final
  have hdir : d.isDir (.ofNames []) = true := isDir_root_licensedScope
  obtain ⟨names, hlist⟩ := Disk.exists_list_of_isDir hdir
  have hown := fails_licensedScope.ownDefinitions
  have hdepth : d.maxDepth = 81 + 1 := by decide +kernel
  have hfinal : ∃ ns, final = (Batch.note { disk := d } ns).fail
      (.definitions ⟨.ofNames ["x.licenseheader".toList], .refused⟩) := by
    rcases howned : ownDefinitions j d (.ofNames []) with ⟨r, ns⟩
    rw [howned] at hown
    obtain rfl : r = .error ⟨.ofNames ["x.licenseheader".toList], .refused⟩ := hown
    have henter : Batch.enter j { disk := d } true (some above) (.ofNames []) =
        (some above, (Batch.note { disk := d } ns).fail
          (.definitions ⟨.ofNames ["x.licenseheader".toList], .refused⟩)) := by
      simp only [Batch.enter, howned, Bool.not_true, Bool.false_eq_true, if_false]
    refine ⟨ns, ?_⟩
    dsimp only [final, Batch.processDirectory]
    rw [hdepth, Batch.walk, henter]
    dsimp only [Batch.note, Batch.say, Batch.fail]
    rw [hlist]
    exact Batch.visitAll_of_isBroken rfl names
  obtain ⟨ns, hfinal⟩ := hfinal
  refine ⟨rfl, fun _ => rfl, reaches_licensedScope,
    isDir_licensedScope (listed_licensedScope.2 (Or.inl rfl)), ?_, ?_⟩
  · rw [hfinal]
    rfl
  · rw [hfinal]
    rfl

end Scope

end Letterhead

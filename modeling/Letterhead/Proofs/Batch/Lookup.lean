import Letterhead.Batch.Inputs
import Letterhead.Proofs.Batch.Tour
import Letterhead.Proofs.Definition.Nearest

/-
  Two ways to the definitions for a file. A file that is given as an input takes those of the
  nearest directory above it that has a definition file. A walk that comes to the file hands
  definitions down from the directory where it starts, which takes what lies above it in the first
  way. Both find the same, with one exception: when the nearest definition file is at or below the
  start of the walk and cannot be loaded, the walk keeps what it has and the other way ends with
  nothing (`file_agrees_with_walk`).
-/

namespace Letterhead

open Letterhead.Tree

variable {d : Disk} {j : Job} {dir p q : Path} {name : Text} {place names ns : List Text}
  {s : DefinitionSet} {e : DefinitionError}

/-! ## Places -/

section Places

variable {n : Node} (hlinks : d.root.linkCount = 0) (hproper : d.root.namesProper = true)

include hlinks hproper

/-- Names that lead a walk down from a directory lead to a place below it. -/
theorem Reaches.exists_locate (h : Reaches j d dir names) (hdir : d.locate dir = .ok (place, n)) :
    ∃ m, d.locate (dir.descend names) = .ok (place ++ names, m) := by
  induction names generalizing dir place n with
  | nil => exact ⟨n, by rw [Path.descend_nil, List.append_nil, hdir]⟩
  | cons name names ih =>
    obtain ⟨hname, hnames⟩ := reaches_cons.1 h
    obtain ⟨m, hchild⟩ := Disk.exists_locate_child hlinks hproper hdir hname.listed
    obtain ⟨m', hm'⟩ := ih hnames hchild
    rw [Path.child_descend, ← List.append_cons] at hm'
    exact ⟨m', hm'⟩

theorem directoryOf_of_isDir (hlocate : d.locate p = .ok (place, n)) (hdir : d.isDir p = true) :
    d.directoryOf p = .ok place := by
  have hplace := Disk.locate_ofNames hlinks hproper (Disk.node?_of_locate hlocate)
  have hisDir : d.isDir (.ofNames place) = true := by
    rwa [Disk.isDir, hplace, ← hlocate, ← Disk.isDir]
  rw [Disk.directoryOf, Disk.resolve_of_locate hlinks hlocate]
  exact congrArg Except.ok (if_pos hisDir)

theorem directoryOf_of_not_isDir (hlocate : d.locate p = .ok (place, n))
    (hdir : d.isDir p = false) : d.directoryOf p = .ok place.dropLast := by
  have hplace := Disk.locate_ofNames hlinks hproper (Disk.node?_of_locate hlocate)
  have hisDir : d.isDir (.ofNames place) = false := by
    rwa [Disk.isDir, hplace, ← hlocate, ← Disk.isDir]
  rw [Disk.directoryOf, Disk.resolve_of_locate hlinks hlocate]
  exact congrArg Except.ok (if_neg (Bool.eq_false_iff.1 hisDir))

/-- The names that lead to a place, and the first of them, are their own canonical form. -/
theorem resolve_ofNames {top : List Text} (hplace : d.node? place = some n)
    (htop : top <+: place) : d.resolve (.ofNames top) = .ok top := by
  obtain ⟨rest, rfl⟩ := htop
  rw [Disk.node?, Node.at?_append, Option.bind_eq_some_iff] at hplace
  obtain ⟨m, hm, -⟩ := hplace
  exact Disk.resolve_of_locate hlinks (Disk.locate_ofNames hlinks hproper hm)

theorem scopeChain_eq {here : List Text} (hp : d.directoryOf p = .ok here)
    (hplace : d.node? place = some n) (hroot : ∀ root, j.root = some root → root <+: place) :
    scopeChain d p (j.root.map Path.ofNames) = .ok ((scopesUpTo j.root here).map Path.ofNames) := by
  rw [scopeChain, hp]
  cases hj : j.root with
  | none => rfl
  | some root =>
    have hresolve := resolve_ofNames hlinks hproper hplace (hroot root hj)
    simp only [Option.map_some, Option.mapM_some, hresolve]
    rfl

end Places

/-! ## Definitions for an input -/

/-- What an input takes from the nearest definition file. -/
def taken : Except DefinitionError (Option DefinitionSet) → Except BatchFault DefinitionSet
  | .ok found => .ok (found.getD {})
  | .error e => if e.isFault then .error (.definitions e) else .ok {}

theorem fst_inheritedDefinitions {chain : List Path}
    (h : scopeChain d p (j.root.map Path.ofNames) = .ok chain) :
    (inheritedDefinitions j d p).1 = taken (nearestDefinitions d j.config.encoding
      (if d.isDir p then chain.drop 1 else chain) j.host).1 := by
  rw [inheritedDefinitions, h]
  dsimp only
  rcases nearestDefinitions d j.config.encoding (if d.isDir p then chain.drop 1 else chain) j.host
    with ⟨e | found, notices⟩
  · dsimp only [taken]
    split <;> rfl
  · rfl

/-- To process a file takes the templates from the definitions, and nothing else. -/
theorem processFile_congr {s t : DefinitionSet} (h : s.entries = t.entries) (b : Batch) (p : Path) :
    b.processFile j (some s) p = b.processFile j (some t) p := by
  obtain ⟨entries, source⟩ := s
  obtain ⟨entries', source'⟩ := t
  obtain rfl : entries = entries' := h
  rfl

/-- An input takes definitions from above, if none there are refused. -/
theorem exists_taken {places : List (List Text)}
    (h : ∀ scope ∈ places, ¬ Refuses j d (.ofNames scope)) :
    ∃ s, taken (nearestDefinitions d j.config.encoding (places.map Path.ofNames) j.host).1 =
      .ok s := by
  induction places with
  | nil => exact ⟨{}, rfl⟩
  | cons scope places ih =>
    rw [List.map_cons]
    rcases definition_cases j d (.ofNames scope) with hbare | ⟨s, hbrings⟩ | ⟨e, hfails⟩
    · rw [nearestDefinitions_of_bare hbare]
      exact ih fun scope hscope => h scope (List.mem_cons_of_mem _ hscope)
    · exact ⟨s, by rw [nearestDefinitions_of_brings hbrings]; rfl⟩
    · have hfault : ¬ e.isFault = true := fun hfault =>
        h scope List.mem_cons_self ⟨e, hfails, hfault⟩
      exact ⟨{}, by rw [nearestDefinitions_of_fails hfails, taken, if_neg hfault]⟩

/-- The last of the stages on a way at which something holds. -/
theorem exists_last_prefix {α : Type} (P : List α → Prop) (xs : List α) :
    (∃ up, up <+: xs ∧ P up ∧ ∀ below, below <+: xs → up.length < below.length → ¬ P below) ∨
      ∀ up, up <+: xs → ¬ P up := by
  induction xs generalizing P with
  | nil =>
    by_cases h : P []
    · exact Or.inl ⟨[], List.nil_prefix, h, fun below hbelow hlt =>
        absurd hbelow.length_le (Nat.not_le_of_lt hlt)⟩
    · exact Or.inr fun up hup => List.prefix_nil.1 hup ▸ h
  | cons x xs ih =>
    rcases ih fun up => P (x :: up) with ⟨up, hup, h, hlast⟩ | hnone
    · refine Or.inl ⟨x :: up, List.cons_prefix_cons.2 ⟨rfl, hup⟩, h, fun below hbelow hlt => ?_⟩
      cases below with
      | nil => exact absurd hlt (Nat.not_lt_zero _)
      | cons y below =>
        obtain ⟨rfl, hrest⟩ := List.cons_prefix_cons.1 hbelow
        exact hlast below hrest (Nat.lt_of_succ_lt_succ hlt)
    · have hbelow : ∀ y below, y :: below <+: x :: xs → ¬ P (y :: below) := by
        intro y below hbelow
        obtain ⟨rfl, hrest⟩ := List.cons_prefix_cons.1 hbelow
        exact hnone below hrest
      by_cases h : P []
      · refine Or.inl ⟨[], List.nil_prefix, h, fun below hway hlt => ?_⟩
        cases below with
        | nil => exact absurd hlt (Nat.lt_irrefl _)
        | cons y below => exact hbelow y below hway
      · refine Or.inr fun up hup => ?_
        cases up with
        | nil => exact h
        | cons y up => exact hbelow y up hup

/-- The nearest definition file on the way down from a directory cannot be loaded. -/
def Spoiled (j : Job) (d : Disk) (dir : Path) (names : List Text) : Prop :=
  ∃ up e, up <+: names ∧ Fails j d (dir.descend up) e ∧
    ∀ below, below <+: names → up.length < below.length →
      ¬ ∃ name, DefinedBy d (dir.descend below) name

theorem not_spoiled_of_brings {up : List Text} (hup : up <+: ns)
    (hbrings : Brings j d (dir.descend up) s)
    (hbare : ∀ below, below <+: ns → up.length < below.length →
      ¬ ∃ name, DefinedBy d (dir.descend below) name) : ¬ Spoiled j d dir ns := by
  rintro ⟨up', e, hup', hfails, hbare'⟩
  rcases Nat.lt_trichotomy up.length up'.length with hlt | heq | hlt
  · obtain ⟨name, hname, -⟩ := hfails
    exact hbare up' hup' hlt ⟨name, hname⟩
  · obtain rfl := (List.prefix_of_prefix_length_le hup hup' (Nat.le_of_eq heq)).eq_of_length heq
    exact hbrings.not_fails hfails
  · obtain ⟨name, hname, -⟩ := hbrings
    exact hbare' up hup hlt ⟨name, hname⟩

section Agreement

variable {n : Node} (hlinks : d.root.linkCount = 0) (hproper : d.root.namesProper = true)
  (hlocate : d.locate dir = .ok (place, n)) (hreaches : Reaches j d dir ns)
  (hroot : ∀ root, j.root = some root → root <+: place)

include hlinks hproper hlocate hreaches

/-- A directory on the way, by the path of the walk and by its canonical one. -/
theorem exists_locate_way {up : List Text} (hup : up <+: ns) :
    ∃ m, d.locate (dir.descend up) = .ok (place ++ up, m) ∧
      d.locate (.ofNames (place ++ up)) = .ok (place ++ up, m) := by
  have hway : Reaches j d dir up := fun top name h => hreaches top name (h.trans hup)
  obtain ⟨m, hm⟩ := hway.exists_locate hlinks hproper hlocate
  exact ⟨m, hm, Disk.locate_ofNames hlinks hproper (Disk.node?_of_locate hm)⟩

include hroot

/-- Directories without definition files do not count. -/
theorem nearestDefinitions_way {up : List Text} (hup : up <+: ns)
    (hbare : ∀ below, below <+: ns → up.length < below.length →
      ¬ ∃ name, DefinedBy d (dir.descend below) name) :
    (nearestDefinitions d j.config.encoding
        ((scopesUpTo j.root (place ++ ns)).map Path.ofNames) j.host).1 =
      (nearestDefinitions d j.config.encoding
        ((scopesUpTo j.root (place ++ up)).map Path.ofNames) j.host).1 := by
  have hstop : ∀ top, j.root = some top → top <+: place ++ up := fun top htop =>
    (hroot top htop).trans (List.prefix_append _ _)
  obtain ⟨rest, rfl⟩ := id hup
  obtain ⟨nearer, hscopes, hnearer⟩ := exists_scopesUpTo_append hstop rest
  rw [← List.append_assoc, hscopes, List.map_append]
  refine nearestDefinitions_append (fun scope hscope name hname => ?_) _ _ _
  obtain ⟨_, hmem, rfl⟩ := List.mem_map.1 hscope
  obtain ⟨more, hne, hmore, rfl⟩ := hnearer _ hmem
  have hbelow : up ++ more <+: up ++ rest := (List.prefix_append_right_inj up).2 hmore
  obtain ⟨m, hwalk, hplace⟩ := exists_locate_way hlinks hproper hlocate hreaches hbelow
  rw [← List.append_assoc] at hwalk hplace
  refine hbare (up ++ more) hbelow ?_ ⟨name, definedBy_congr hlinks hplace hwalk hname⟩
  rw [List.length_append]
  exact Nat.lt_add_of_pos_right (List.length_pos_iff.2 hne)

/-- What a file takes from above it and what governs the file in a walk that takes its start from
above have the same templates, unless the nearest definition file on the way is spoiled. -/
theorem entries_eq_iff {file above walk : DefinitionSet}
    (hrefused : ∀ scope ∈ scopesUpTo j.root (place ++ ns), ¬ Refuses j d (.ofNames scope))
    (hfile : taken (nearestDefinitions d j.config.encoding
      ((scopesUpTo j.root (place ++ ns)).map Path.ofNames) j.host).1 = .ok file)
    (habove : taken (nearestDefinitions d j.config.encoding
      (((scopesUpTo j.root place).drop 1).map Path.ofNames) j.host).1 = .ok above)
    (hwalk : Governs j d dir (some above) ns (some walk)) :
    file.entries = walk.entries ↔ (Spoiled j d dir ns → walk.entries = []) := by
  rcases exists_last_prefix (fun up => ∃ name, DefinedBy d (dir.descend up) name) ns with
    ⟨up, hup, ⟨name, hname⟩, hbare⟩ | hbare
  · obtain ⟨m, hlocated, hplace⟩ := exists_locate_way hlinks hproper hlocate hreaches hup
    rw [nearestDefinitions_way hlinks hproper hlocate hreaches hroot hup hbare,
      scopesUpTo_eq_cons, List.map_cons] at hfile
    rcases definition_cases j d (dir.descend up) with hnone | ⟨own, hbrings⟩ | ⟨e, hfails⟩
    · exact absurd hname (hnone name)
    · -- The nearest definition file can be loaded, and both take it.
      have hgoverns : Governs j d dir (some above) ns (some own) :=
        .brought hup hbrings fun below _ hbelow ⟨other, hother, _⟩ =>
          Nat.le_of_not_lt fun hlt => hbare below hbelow hlt ⟨other, hother⟩
      obtain rfl := Option.some.inj (hgoverns.unique hwalk)
      obtain ⟨t, ht, hentries⟩ := hbrings.congr hlinks hlocated hplace
      rw [nearestDefinitions_of_brings ht] at hfile
      obtain rfl : t = file := Except.ok.inj hfile
      refine iff_of_true hentries fun hspoiled => absurd hspoiled ?_
      exact not_spoiled_of_brings hup hbrings hbare
    · -- The nearest definition file cannot be loaded, and the file ends with nothing.
      have hspoiled : Spoiled j d dir ns := ⟨up, e, hup, hfails, hbare⟩
      obtain ⟨e', hfails', -⟩ := hfails.congr hlinks hlocated hplace
      have hfault : ¬ e'.isFault = true := fun hfault =>
        hrefused _ (mem_scopesUpTo hroot hup) ⟨e', hfails', hfault⟩
      rw [nearestDefinitions_of_fails hfails', taken, if_neg hfault] at hfile
      obtain rfl : {} = file := Except.ok.inj hfile
      exact ⟨fun h _ => h.symm, fun h => (h hspoiled).symm⟩
  · -- No directory on the way has a definition file, so both take what lies above.
    have hgoverns : Governs j d dir (some above) ns (some above) :=
      .inherited fun up _ hup ⟨other, hother, _⟩ => hbare up hup ⟨other, hother⟩
    obtain rfl := Option.some.inj (hgoverns.unique hwalk)
    obtain ⟨m, hlocated, hplace⟩ :=
      exists_locate_way hlinks hproper hlocate hreaches (List.nil_prefix (l := ns))
    have hnone : ∀ name, ¬ DefinedBy d (.ofNames (place ++ [])) name := fun name hname =>
      hbare [] List.nil_prefix ⟨name, definedBy_congr hlinks hplace hlocated hname⟩
    rw [nearestDefinitions_way hlinks hproper hlocate hreaches hroot List.nil_prefix
      fun below hbelow _ => hbare below hbelow, scopesUpTo_eq_cons, List.map_cons,
      nearestDefinitions_of_bare hnone, List.append_nil, habove] at hfile
    obtain rfl := Except.ok.inj hfile
    exact iff_of_true rfl fun ⟨up, _, hup, ⟨name, hname, _⟩, _⟩ =>
      absurd ⟨name, hname⟩ (hbare up hup)

end Agreement

/-! ## Inputs -/

theorem Batch.processInput_nearest {b : Batch} {defs : DefinitionSet} {remarks : List Remark}
    (hdisk : b.disk = d) (hincluded : j.excludes d p = .ok false)
    (hinherits : inheritedDefinitions j d p = (.ok defs, remarks)) :
    b.processInput j .nearest p = (b.say remarks).processWith j true (some defs) p := by
  subst hdisk
  unfold processInput
  rw [hincluded]
  dsimp only
  rw [hinherits]

/-- The stops about an entry: the one at which it is processed with the definitions that govern
it. -/
theorem entry_mem_stops_iff {depth : Nat} {defs s t : Option DefinitionSet}
    (hlinks : d.root.linkCount = 0) (hdir : d.isDir dir = true) (hdepth : d.heightAt dir ≤ depth)
    (hreaches : Reaches j d dir names) (hfile : d.isDir (dir.descend names) = false)
    (hgoverns : Governs j d dir defs names.dropLast s) :
    .entry (dir.descend names) t ∈ stops j d depth defs dir ↔ t = s := by
  rw [mem_stops_iff hlinks hdir hdepth]
  constructor
  · rintro ⟨names', -, ⟨-, h⟩ | ⟨-, s', hs', h⟩⟩
    · cases h
    · obtain ⟨hpath, rfl⟩ := Stop.entry.inj h
      rw [← dir.descend_inj hpath] at hs'
      exact hs'.unique hgoverns
  · rintro rfl
    exact ⟨names, hreaches, Or.inr ⟨hfile, t, hgoverns, rfl⟩⟩

/-- The definitions that govern are some, when those from above are. -/
theorem exists_governs (j : Job) (d : Disk) (dir : Path) (above : DefinitionSet)
    (names : List Text) : ∃ walk, Governs j d dir (some above) names (some walk) := by
  induction names generalizing dir above with
  | nil =>
    cases hown : brought? j d dir with
    | none => exact ⟨above, governs_nil.2 (by rw [hown]; rfl)⟩
    | some own => exact ⟨own, governs_nil.2 (by rw [hown]; rfl)⟩
  | cons name names ih =>
    cases hown : brought? j d dir with
    | none =>
      obtain ⟨walk, hwalk⟩ := ih (dir.child name) above
      exact ⟨walk, governs_cons.2 (by rwa [hown])⟩
    | some own =>
      obtain ⟨walk, hwalk⟩ := ih (dir.child name) own
      exact ⟨walk, governs_cons.2 (by rwa [hown])⟩

/-- The definitions for a file as an input are those of the nearest directory above it. -/
theorem exists_inherited_file {n : Node} (hlinks : d.root.linkCount = 0)
    (hproper : d.root.namesProper = true) (hlocate : d.locate dir = .ok (place, n))
    (hroot : ∀ root, j.root = some root → root <+: place)
    (hreaches : Reaches j d dir (ns ++ [name]))
    (hfile : d.isDir (dir.descend (ns ++ [name])) = false)
    (hrefused : ∀ scope ∈ scopesUpTo j.root (place ++ ns), ¬ Refuses j d (.ofNames scope)) :
    ∃ file remarks,
      inheritedDefinitions j d (dir.descend (ns ++ [name])) = (.ok file, remarks) ∧
        taken (nearestDefinitions d j.config.encoding
          ((scopesUpTo j.root (place ++ ns)).map Path.ofNames) j.host).1 = .ok file := by
  obtain ⟨m, hm⟩ := hreaches.exists_locate hlinks hproper hlocate
  have hdirectory := directoryOf_of_not_isDir hlinks hproper hm hfile
  rw [← List.append_assoc, List.dropLast_concat] at hdirectory
  have hinherits := fst_inheritedDefinitions
    (scopeChain_eq hlinks hproper hdirectory (Disk.node?_of_locate hlocate) hroot)
  rw [hfile, if_neg Bool.false_ne_true] at hinherits
  obtain ⟨file, htaken⟩ := exists_taken hrefused
  rw [htaken] at hinherits
  exact ⟨file, _, Prod.ext hinherits rfl, htaken⟩

/-- The definitions for a directory as an input are those from above it; its own come later. -/
theorem exists_inherited_directory {n : Node} (hlinks : d.root.linkCount = 0)
    (hproper : d.root.namesProper = true) (hlocate : d.locate dir = .ok (place, n))
    (hdir : d.isDir dir = true) (hroot : ∀ root, j.root = some root → root <+: place)
    (hrefused : ∀ scope ∈ scopesUpTo j.root place, ¬ Refuses j d (.ofNames scope)) :
    ∃ above remarks, inheritedDefinitions j d dir = (.ok above, remarks) ∧
      taken (nearestDefinitions d j.config.encoding
        (((scopesUpTo j.root place).drop 1).map Path.ofNames) j.host).1 = .ok above := by
  have hinherits := fst_inheritedDefinitions (scopeChain_eq hlinks hproper
    (directoryOf_of_isDir hlinks hproper hlocate hdir) (Disk.node?_of_locate hlocate) hroot)
  rw [hdir, if_pos rfl, ← List.map_drop] at hinherits
  have hrefused' : ∀ scope ∈ (scopesUpTo j.root place).drop 1, ¬ Refuses j d (.ofNames scope) :=
    fun scope hscope => hrefused scope (List.mem_of_mem_drop hscope)
  obtain ⟨above, htaken⟩ := exists_taken hrefused'
  rw [htaken] at hinherits
  exact ⟨above, _, Prod.ext hinherits rfl, htaken⟩

/-- A file as an input, and the same file in a walk that starts at or above it, in a tree without
links and below the root of the project. Either way there are definitions for it, unless a
definition file above it is refused. They have the same templates just when the nearest definition
file on the way of the walk can be loaded, or there is none, or the walk has no templates either.
Then what happens to the file is the same. -/
theorem file_agrees_with_walk {es : List (Text × Node)} (hlinks : d.root.linkCount = 0)
    (hproper : d.root.namesProper = true) (hlocate : d.locate dir = .ok (place, .dir es))
    (hroot : ∀ root, j.root = some root → root <+: place)
    (hincluded : j.excludes d dir = .ok false) (hreaches : Reaches j d dir names)
    (hfile : d.isDir (dir.descend names) = false)
    (hrefused : ∀ scope ∈ scopesUpTo j.root (place ++ names.dropLast),
      ¬ Refuses j d (.ofNames scope))
    (hcancels : ∀ n, j.cancels n = false) (hinterrupts : j.interruptsAfterWrite = false) :
    ∃ (file walk : DefinitionSet) (fileRemarks walkRemarks : List Remark) (ss : List Stop),
      (∀ b : Batch, b.disk = d → b.processInput j .nearest (dir.descend names) =
        (b.say fileRemarks).processFile j (some file) (dir.descend names)) ∧
      (∀ b : Batch, b.disk = d → b.interrupted = false → b.isBroken = false →
        b.processInput j .nearest dir = (b.say walkRemarks).tour j ss) ∧
      (∀ s, .entry (dir.descend names) s ∈ ss ↔ s = some walk) ∧
      (file.entries = walk.entries ↔
        (Spoiled j d dir names.dropLast → walk.entries = [])) ∧
      (file.entries = walk.entries → ∀ b : Batch,
        b.processFile j (some file) (dir.descend names) =
          b.processFile j (some walk) (dir.descend names)) := by
  have hdir : d.isDir dir = true := by rw [Disk.isDir, hlocate]
  have hne : names ≠ [] := by
    rintro rfl
    rw [Path.descend_nil, hdir] at hfile
    cases hfile
  obtain ⟨ns, name, rfl⟩ : ∃ ns name, names = ns ++ [name] :=
    ⟨_, _, (List.dropLast_concat_getLast hne).symm⟩
  rw [List.dropLast_concat] at hrefused ⊢
  have hway : Reaches j d dir ns := fun up name h =>
    hreaches up name (h.trans (List.prefix_append _ _))
  obtain ⟨file, fileRemarks, hfileInherits, hfileTaken⟩ :=
    exists_inherited_file hlinks hproper hlocate hroot hreaches hfile hrefused
  obtain ⟨above, walkRemarks, hdirInherits, haboveTaken⟩ :=
    exists_inherited_directory hlinks hproper hlocate hdir hroot fun scope hscope =>
      hrefused scope (scopesUpTo_subset hroot hscope)
  obtain ⟨walk, hwalk⟩ := exists_governs j d dir above ns
  have hentries := entries_eq_iff hlinks hproper hlocate hway hroot hrefused hfileTaken
    haboveTaken hwalk
  have hdepth := d.heightAt_le_maxDepth dir
  refine ⟨file, walk, fileRemarks, walkRemarks, stops j d d.maxDepth (some above) dir, ?_, ?_, ?_,
    hentries, fun h b => processFile_congr h b _⟩
  · intro b hb
    have hincluded' : j.excludes d (dir.descend (ns ++ [name])) = .ok false := by
      rw [← Path.descend_child]
      exact (hreaches ns name List.prefix_rfl).included
    rw [Batch.processInput_nearest hb hincluded' hfileInherits, Batch.processWith]
    have hfile' : (b.say fileRemarks).disk.isDir (dir.descend (ns ++ [name])) = false := by
      subst hb
      exact hfile
    rw [hfile', if_neg Bool.false_ne_true]
  · intro b hb huninterrupted hbroken
    rw [Batch.processInput_nearest hb hincluded hdirInherits, Batch.processWith]
    subst hb
    have hdir' : (b.say walkRemarks).disk.isDir dir = true := hdir
    rw [hdir', if_pos rfl]
    exact (Batch.walk_follows hlinks hcancels hinterrupts hproper _ _ hdir (b.say walkRemarks)
      ⟨.refl _, huninterrupted⟩ hbroken).1
  · intro s
    refine entry_mem_stops_iff hlinks hdir hdepth hreaches hfile ?_
    rwa [List.dropLast_concat]

/-- The source file takes the definitions of its directory, alone or in a walk. -/
theorem file_agrees_with_walk_in_scope :
    let d := licensedScope
    let j := scopeJob none
    let dir := Path.ofNames []
    let names := ["a.cs".toList]
    d.root.linkCount = 0 ∧ d.root.namesProper = true ∧
      d.locate dir = .ok ([], .dir d.root.entries) ∧
      (∀ root, j.root = some root → root <+: []) ∧ j.excludes d dir = .ok false ∧
      Reaches j d dir names ∧ d.isDir (dir.descend names) = false ∧
      (∀ scope ∈ scopesUpTo j.root ([] ++ names.dropLast), ¬ Refuses j d (.ofNames scope)) ∧
      (∀ n, j.cancels n = false) ∧ j.interruptsAfterWrite = false ∧
      ∃ (file walk : DefinitionSet) (remarks : List Remark) (ss : List Stop),
        (∀ b : Batch, b.disk = d → b.processInput j .nearest (dir.descend names) =
          (b.say remarks).processFile j (some file) (dir.descend names)) ∧
        .entry (dir.descend names) (some walk) ∈ ss ∧ file.entries = walk.entries := by
  intro d j dir names
  have hlocate : d.locate dir = .ok ([], .dir d.root.entries) := locate_licensedScope rfl
  have hroot : ∀ root, j.root = some root → root <+: [] := fun root h =>
    Option.some.inj h ▸ List.prefix_rfl
  have hfile : d.isDir (dir.descend names) = false :=
    isDir_licensedScope (listed_licensedScope.2 (Or.inl rfl))
  obtain ⟨own, hbrings⟩ : ∃ own, Brings j d (dir.descend []) own := by
    rw [Path.descend_nil]
    exact ⟨_, brings_licensedScope⟩
  have hscopes : scopesUpTo j.root ([] ++ names.dropLast) = [[]] := by
    rw [scopesUpTo.eq_def]
    rfl
  have hrefused : ∀ scope ∈ scopesUpTo j.root ([] ++ names.dropLast),
      ¬ Refuses j d (.ofNames scope) := by
    intro scope hscope ⟨e, hfails, _⟩
    rw [hscopes, List.mem_singleton] at hscope
    rw [hscope] at hfails
    exact brings_licensedScope.not_fails hfails
  have hspoiled : ¬ Spoiled j d dir names.dropLast :=
    not_spoiled_of_brings List.nil_prefix hbrings fun below hbelow hlt =>
      absurd hbelow.length_le (Nat.not_le_of_lt hlt)
  obtain ⟨file, walk, remarks, _, ss, hinput, -, hstops, hentries, -⟩ :=
    file_agrees_with_walk (j := j) rfl (by decide) hlocate hroot rfl reaches_licensedScope hfile
      hrefused (fun _ => rfl) rfl
  exact ⟨rfl, by decide, hlocate, hroot, rfl, reaches_licensedScope, hfile, hrefused, fun _ => rfl,
    rfl, file, walk, remarks, ss, hinput, (hstops _).2 rfl,
    hentries.2 fun h => absurd h hspoiled⟩

/-- A directory with a source file and a definition file that is no text, below one with a
definition file. -/
def spoiledScope : Disk where
  root := .dir [
    ("sub".toList, .dir [("a.cs".toList, .file (Utf8.encode "class A {}\n".toList)),
      ("y.licenseheader".toList, .file [0xff])]),
    ("x.licenseheader".toList, .file (Utf8.encode "extensions: .cs\n// License: MIT\n".toList))]
  cwd := []

theorem locate_spoiledScope {n : Node} (h : spoiledScope.node? names = some n) :
    spoiledScope.locate (.ofNames names) = .ok (names, n) :=
  Disk.locate_ofNames rfl (by decide) h

theorem listed_spoiledScope :
    spoiledScope.Listed (.ofNames ["sub".toList]) name ↔
      name = "a.cs".toList ∨ name = "y.licenseheader".toList := by
  rw [Disk.listed_iff_of_locate (locate_spoiledScope rfl)]
  simp

theorem fails_spoiledScope :
    Fails (scopeJob none) spoiledScope (.ofNames ["sub".toList])
      ⟨.ofNames ["sub".toList, "y.licenseheader".toList], .undecodable⟩ := by
  have hpath : (Path.ofNames ["sub".toList]).child "y.licenseheader".toList =
    .ofNames ["sub".toList, "y.licenseheader".toList] := rfl
  have hfile : IsDefinitionFile spoiledScope (.ofNames ["sub".toList])
      "y.licenseheader".toList := {
    listed := listed_spoiledScope.2 (Or.inr rfl)
    extension := by decide
    isFile := by rw [hpath, Disk.isFile, locate_spoiledScope rfl] }
  refine ⟨_, hfile.definedBy fun other hother => ?_, ?_⟩
  · obtain rfl | rfl := listed_spoiledScope.1 hother.listed
    · exact absurd hother.extension (by decide)
    · rfl
  · rw [hpath, DefinitionSet.load, Host.refusal?, Disk.read, locate_spoiledScope rfl]
    decide

theorem brings_spoiledScope :
    Brings (scopeJob none) spoiledScope (.ofNames [])
      (.ofText "extensions: .cs\n// License: MIT\n".toList
        (some (.ofNames ["x.licenseheader".toList]))) := by
  have hpath : (Path.ofNames []).child "x.licenseheader".toList =
    .ofNames ["x.licenseheader".toList] := rfl
  have hlisted : ∀ {name}, spoiledScope.Listed (.ofNames []) name ↔
      name = "sub".toList ∨ name = "x.licenseheader".toList := by
    intro name
    rw [Disk.listed_iff_of_locate (locate_spoiledScope rfl)]
    simp
  have hfile : IsDefinitionFile spoiledScope (.ofNames []) "x.licenseheader".toList := {
    listed := hlisted.2 (Or.inr rfl)
    extension := by decide
    isFile := by rw [hpath, Disk.isFile, locate_spoiledScope rfl] }
  refine ⟨_, hfile.definedBy fun other hother => ?_, ?_⟩
  · obtain rfl | rfl := hlisted.1 hother.listed
    · exact absurd hother.extension (by decide)
    · rfl
  · rw [hpath, DefinitionSet.load, Host.refusal?, Disk.read, locate_spoiledScope rfl]
    decide

/-- A file whose directory has a definition file that is no text. Given as an input it gets no
templates, and in the walk through its directory those of the directory above. -/
theorem file_disagrees_with_walk :
    let d := spoiledScope
    let j := scopeJob none
    let dir := Path.ofNames ["sub".toList]
    let names := ["a.cs".toList]
    let above : DefinitionSet := .ofText "extensions: .cs\n// License: MIT\n".toList
      (some (.ofNames ["x.licenseheader".toList]))
    d.root.linkCount = 0 ∧ (∀ root, j.root = some root → root <+: ["sub".toList]) ∧
      j.excludes d dir = .ok false ∧ Reaches j d dir names ∧
      d.isDir (dir.descend names) = false ∧
      (inheritedDefinitions j d (dir.descend names)).1 = .ok {} ∧
      (inheritedDefinitions j d dir).1 = .ok above ∧
      Governs j d dir (some above) names.dropLast (some above) ∧ above.entries ≠ [] := by
  intro d j dir names above
  have hdir : d.isDir dir = true := by
    rw [Disk.isDir, locate_spoiledScope rfl]
  have hfile : d.isDir (dir.descend names) = false := by
    have hpath : dir.descend names = .ofNames ["sub".toList, "a.cs".toList] := rfl
    rw [hpath, Disk.isDir, locate_spoiledScope rfl]
  have hroot : ∀ root, j.root = some root → root <+: ["sub".toList] := fun root h =>
    Option.some.inj h ▸ List.nil_prefix
  have hreaches : Reaches j d dir names :=
    reaches_cons.2 ⟨⟨listed_spoiledScope.2 (Or.inl rfl), by decide, rfl⟩, reaches_nil _ _ _⟩
  have hscopes : scopesUpTo j.root ["sub".toList] = [["sub".toList], []] := by
    have htop : scopesUpTo j.root [] = [[]] := by
      rw [scopesUpTo.eq_def]
      rfl
    have hbelow : ∀ top, j.root = some top → top <+: [] := fun top h =>
      Option.some.inj h ▸ List.prefix_rfl
    rw [← List.nil_append ["sub".toList], scopesUpTo_concat hbelow, htop]
  have hplace : d.node? ["sub".toList] ≠ none := by decide
  obtain ⟨n, hnode⟩ := Option.ne_none_iff_exists'.1 hplace
  have hchain : ∀ {p : Path}, d.directoryOf p = .ok ["sub".toList] →
      scopeChain d p (j.root.map Path.ofNames) =
        .ok ([["sub".toList], []].map Path.ofNames) := fun hp => by
    rw [scopeChain_eq rfl (by decide) hp hnode hroot, hscopes]
  refine ⟨rfl, hroot, rfl, hreaches, hfile, ?_, ?_, governs_nil.2 ?_, by decide +kernel⟩
  · have hdirectory : d.directoryOf (dir.descend names) = .ok ["sub".toList] :=
      directoryOf_of_not_isDir rfl (by decide) (locate_spoiledScope rfl) hfile
    rw [fst_inheritedDefinitions (hchain hdirectory), hfile, if_neg Bool.false_ne_true,
      List.map_cons, nearestDefinitions_of_fails fails_spoiledScope]
    rfl
  · have hdirectory : d.directoryOf dir = .ok ["sub".toList] :=
      directoryOf_of_isDir rfl (by decide) (locate_spoiledScope rfl) hdir
    rw [fst_inheritedDefinitions (hchain hdirectory), hdir, if_pos rfl, List.map_cons,
      List.map_cons, List.drop_one, List.tail_cons,
      nearestDefinitions_of_brings brings_spoiledScope]
    rfl
  · have hnone : brought? j d dir = none := brought?_eq_none_iff.2 fun s hbrings =>
      hbrings.not_fails fails_spoiledScope
    rw [hnone, Option.none_or]

end Letterhead

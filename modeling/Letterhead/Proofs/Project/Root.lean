import Letterhead.Project.Root
import Letterhead.Proofs.Batch.Lookup
import Mathlib.Data.List.Chain
import Mathlib.Data.List.Induction

/-
  The root of a project as the bound of the lookup of definition files. Where no root is given, it is
  the current directory if all inputs lie there, and else the deepest directory above all of them
  (`exists_projectRoot`). In both cases every input lies in it, so the directories that can decide
  about an input lead from the input up to the root, each the parent of the one before, and end there
  (`ascends_scopesUpTo`). So definitions for an input come from a file in the root or nowhere
  (`projectRoot_bounds`).
-/

namespace Letterhead

open Letterhead.Tree

variable {d : Disk} {j : Job} {p : Path} {paths : List Path} {place root top : List Text}
  {dirs : List (List Text)}

/-! ## Common names -/

namespace Path

theorem commonNames_prefix_left (a b : List Text) : commonNames a b <+: a := by
  induction a generalizing b with
  | nil => exact List.nil_prefix
  | cons x a ih =>
    cases b with
    | nil => exact List.nil_prefix
    | cons y b =>
      rw [commonNames]
      split
      · exact List.cons_prefix_cons.2 ⟨rfl, ih b⟩
      · exact List.nil_prefix

theorem commonNames_comm (a b : List Text) : commonNames a b = commonNames b a := by
  induction a generalizing b with
  | nil => cases b <;> rfl
  | cons x a ih =>
    cases b with
    | nil => rfl
    | cons y b =>
      rw [commonNames, commonNames]
      by_cases h : x = y
      · rw [if_pos h, if_pos h.symm, h, ih]
      · rw [if_neg h, if_neg (Ne.symm h)]

theorem commonNames_prefix_right (a b : List Text) : commonNames a b <+: b :=
  commonNames_comm a b ▸ commonNames_prefix_left b a

/-- What two lists of names begin with is part of what they have in common. -/
theorem prefix_commonNames {a b : List Text} (ha : top <+: a) (hb : top <+: b) :
    top <+: commonNames a b := by
  induction top generalizing a b with
  | nil => exact List.nil_prefix
  | cons x top ih =>
    obtain ⟨a, rfl⟩ := ha
    obtain ⟨b, rfl⟩ := hb
    rw [List.cons_append, List.cons_append, commonNames, if_pos rfl]
    have hrest : top <+: commonNames (top ++ a) (top ++ b) :=
      ih (List.prefix_append _ _) (List.prefix_append _ _)
    exact List.cons_prefix_cons.2 ⟨rfl, hrest⟩

/-- The common names of several lists are the longest that all of them begin with. -/
theorem prefix_foldl_commonNames (dir : List Text) :
    top <+: dirs.foldl commonNames dir ↔ ∀ x ∈ dir :: dirs, top <+: x := by
  induction dirs generalizing dir with
  | nil => simp
  | cons y dirs ih =>
    rw [List.foldl_cons, ih]
    constructor
    · intro h x hx
      have hboth : top <+: commonNames dir y := h _ List.mem_cons_self
      rcases List.mem_cons.1 hx with rfl | hx
      · exact hboth.trans (commonNames_prefix_left _ _)
      rcases List.mem_cons.1 hx with rfl | hx
      · exact hboth.trans (commonNames_prefix_right _ _)
      · exact h x (List.mem_cons_of_mem _ hx)
    · intro h x hx
      rcases List.mem_cons.1 hx with rfl | hx
      · exact prefix_commonNames (h _ (by simp)) (h _ (by simp))
      · exact h x (by simp [hx])

theorem below?_isSome_iff {base p : List Text} : (below? base p).isSome = true ↔ base <+: p := by
  induction base generalizing p with
  | nil => simp [below?]
  | cons b base ih =>
    cases p with
    | nil => simp [below?]
    | cons n p =>
      rw [below?, List.cons_prefix_cons]
      by_cases h : b = n
      · rw [if_pos h, ih]
        exact (and_iff_right h).symm
      · rw [if_neg h]
        exact iff_of_false Bool.false_ne_true fun hand => h hand.1

end Path

/-! ## The way up to a root -/

/-- Directories that lead up from one to another: each is the parent of the one before. -/
structure Ascends (start stop : List Text) (dirs : List (List Text)) : Prop where
  head : dirs.head? = some start
  last : dirs.getLast? = some stop
  parents : dirs.IsChain fun dir above => dir ≠ [] ∧ above = dir.dropLast

theorem scopesUpTo_self (top : List Text) : scopesUpTo (some top) top = [top] := by
  rw [scopesUpTo.eq_def, if_pos rfl]

/-- The directories that can decide about a place below a root lead from the place up to the
root. -/
theorem ascends_scopesUpTo (h : root <+: place) :
    Ascends place root (scopesUpTo (some root) place) := by
  obtain ⟨rest, rfl⟩ := h
  induction rest using List.reverseRecOn with
  | nil =>
    rw [List.append_nil, scopesUpTo_self]
    exact ⟨rfl, rfl, List.isChain_singleton _⟩
  | append_singleton rest name ih =>
    have hstop : ∀ top, some root = some top → top <+: root ++ rest := fun top htop =>
      Option.some.inj htop ▸ List.prefix_append _ _
    rw [← List.append_assoc, scopesUpTo_concat hstop]
    obtain ⟨hhead, hlast, hparents⟩ := ih
    refine ⟨rfl, ?_, ?_⟩
    · rw [List.getLast?_cons, hlast]
      rfl
    · rw [List.isChain_cons]
      refine ⟨fun above habove => ?_, hparents⟩
      rw [hhead, Option.mem_def, Option.some.injEq] at habove
      exact ⟨by simp, by rw [← habove, List.dropLast_concat]⟩

theorem mem_scopesUpTo_iff (h : root <+: place) {scope : List Text} :
    scope ∈ scopesUpTo (some root) place ↔ root <+: scope ∧ scope <+: place := by
  obtain ⟨rest, rfl⟩ := h
  have hroot : ∀ top, some root = some top → top <+: root := fun top htop =>
    Option.some.inj htop ▸ List.prefix_rfl
  constructor
  · intro hscope
    obtain ⟨nearer, hscopes, hnearer⟩ := exists_scopesUpTo_append hroot rest
    rw [hscopes, scopesUpTo_self, List.mem_append, List.mem_singleton] at hscope
    rcases hscope with hscope | rfl
    · obtain ⟨up, -, hup, rfl⟩ := hnearer scope hscope
      exact ⟨List.prefix_append _ _, (List.prefix_append_right_inj _).2 hup⟩
    · exact ⟨List.prefix_rfl, List.prefix_append _ _⟩
  · rintro ⟨⟨up, rfl⟩, hup⟩
    exact mem_scopesUpTo hroot ((List.prefix_append_right_inj _).1 hup)

/-! ## Directories by their places -/

namespace Tree.Disk

/-- There is a directory at a place. -/
def HasDir (d : Disk) (place : List Text) : Prop := ∃ es, d.node? place = some (.dir es)

/-- Where names lead anywhere, those that they begin with lead to a directory. -/
theorem hasDir_of_node? {name : Text} {rest : List Text} {n : Node}
    (h : d.node? (top ++ name :: rest) = some n) : d.HasDir top := by
  rw [node?, Node.at?_append, Option.bind_eq_some_iff] at h
  obtain ⟨m, hm, hbelow⟩ := h
  rw [Node.at?_cons, Option.bind_eq_some_iff] at hbelow
  obtain ⟨x, hx, -⟩ := hbelow
  cases m with
  | dir es => exact ⟨es, hm⟩
  | file bytes => cases hx
  | link target => cases hx

/-- The directories in which a directory lies. -/
theorem HasDir.of_prefix (h : d.HasDir place) (htop : top <+: place) : d.HasDir top := by
  obtain ⟨rest, rfl⟩ := htop
  cases rest with
  | nil => rwa [List.append_nil] at h
  | cons name rest =>
    obtain ⟨es, hes⟩ := h
    exact hasDir_of_node? hes

theorem HasDir.isDir (hlinks : d.root.linkCount = 0) (hproper : d.root.namesProper = true)
    (h : d.HasDir place) : d.isDir (.ofNames place) = true := by
  obtain ⟨es, hes⟩ := h
  rw [Disk.isDir, locate_ofNames hlinks hproper hes]

end Tree.Disk

/-! ## The root of a project -/

/-- What is known of an input that exists: its canonical form, and the directory that it stands
for. -/
structure Standing (d : Disk) (p : Path) (place here : List Text) : Prop where
  resolve : d.resolve p = .ok place
  directoryOf : d.directoryOf p = .ok here
  here_eq : here = if d.isDir p then place else place.dropLast
  hasDir : d.HasDir here
  below : here <+: place
  deepest : ∀ top, d.HasDir top → top <+: place → top <+: here

theorem exists_standing (hlinks : d.root.linkCount = 0) (hproper : d.root.namesProper = true)
    (hcwd : d.HasDir d.cwd) (h : d.exists? p = true) :
    ∃ place here, Standing d p place here := by
  cases hlocate : d.locate p with
  | error fault => simp [Disk.exists?, hlocate, Except.isOk, Except.toBool] at h
  | ok found =>
    obtain ⟨place, n⟩ := found
    have hresolve : d.resolve p = .ok place := Disk.resolve_of_locate hlinks hlocate
    have hnode : d.node? place = some n := Disk.node?_of_locate hlocate
    cases n with
    | dir es =>
      have hdir : d.isDir p = true := by rw [Disk.isDir, hlocate]
      exact ⟨place, place, hresolve, directoryOf_of_isDir hlinks hproper hlocate hdir,
        (if_pos hdir).symm, ⟨es, hnode⟩, List.prefix_rfl, fun top _ htop => htop⟩
    | _ =>
      have hdir : d.isDir p = false := by rw [Disk.isDir, hlocate]
      have hplace : ¬ d.HasDir place := by
        rintro ⟨es, hes⟩
        simp [hnode] at hes
      rcases List.eq_nil_or_concat' place with rfl | ⟨up, name, rfl⟩
      · exact absurd (hcwd.of_prefix List.nil_prefix) hplace
      · have hhere := directoryOf_of_not_isDir hlinks hproper hlocate hdir
        rw [List.dropLast_concat] at hhere
        have hup : up = if d.isDir p then up ++ [name] else (up ++ [name]).dropLast := by
          rw [hdir, if_neg Bool.false_ne_true, List.dropLast_concat]
        refine ⟨up ++ [name], up, hresolve, hhere, hup, Disk.hasDir_of_node? hnode,
          List.prefix_append _ _, fun top htop hbelow => ?_⟩
        rcases List.prefix_concat_iff.1 hbelow with rfl | hbelow
        · exact absurd htop hplace
        · exact hbelow

/-! ### Which directory is the root -/

/-- A path of which the canonical form is known is local if that lies in the current directory. -/
theorem isLocal_eq (h : d.resolve p = .ok place) : isLocal d p = .ok (decide (d.cwd <+: place)) := by
  rw [isLocal, h]
  refine congrArg Except.ok ?_
  rw [Bool.eq_iff_iff, Path.below?_isSome_iff, decide_eq_true_iff]

/-- Whether all paths are local. -/
theorem allM_isLocal (h : ∀ p ∈ paths, ∃ place, d.resolve p = .ok place) :
    ∃ b, paths.allM (isLocal d) = .ok b ∧
      (b = true → ∀ p ∈ paths, ∀ place, d.resolve p = .ok place → d.cwd <+: place) := by
  induction paths with
  | nil => exact ⟨true, rfl, fun _ => nofun⟩
  | cons p paths ih =>
    obtain ⟨place, hplace⟩ := h p List.mem_cons_self
    have hlocal := isLocal_eq hplace
    by_cases hcwd : d.cwd <+: place
    · obtain ⟨b, hall, hb⟩ := ih fun q hq => h q (List.mem_cons_of_mem _ hq)
      rw [decide_eq_true hcwd] at hlocal
      refine ⟨b, ?_, fun hbt q hq place' hplace' => ?_⟩
      · rw [List.allM, hlocal]
        exact hall
      · rcases List.mem_cons.1 hq with rfl | hq
        · rw [hplace, Except.ok.injEq] at hplace'
          exact hplace' ▸ hcwd
        · exact hb hbt q hq place' hplace'
    · rw [decide_eq_false hcwd] at hlocal
      refine ⟨false, ?_, nofun⟩
      rw [List.allM, hlocal]
      rfl

/-- What a reader that always succeeds makes of a list. -/
theorem exists_mapM_eq {α β ε : Type} {f : α → Except ε β} {xs : List α}
    (h : ∀ x ∈ xs, ∃ y, f x = .ok y) :
    ∃ ys, xs.mapM f = .ok ys ∧ ys.length = xs.length ∧ ∀ y, y ∈ ys ↔ ∃ x ∈ xs, f x = .ok y := by
  induction xs with
  | nil => exact ⟨[], rfl, rfl, by simp⟩
  | cons x xs ih =>
    obtain ⟨y, hy⟩ := h x List.mem_cons_self
    obtain ⟨ys, hys, hlength, hmem⟩ := ih fun x' hx' => h x' (List.mem_cons_of_mem _ hx')
    refine ⟨y :: ys, ?_, congrArg (· + 1) hlength, fun y' => ?_⟩
    · rw [List.mapM_cons, hy, hys]
      rfl
    · rw [List.mem_cons, hmem, List.exists_mem_cons_iff, hy, Except.ok.injEq]
      exact or_congr_left eq_comm

/-- The common root of paths is the deepest directory above the directories that they stand for. -/
theorem exists_commonRoot (hne : paths ≠ []) (h : ∀ p ∈ paths, ∃ here, d.directoryOf p = .ok here) :
    ∃ root, commonRoot d paths = .ok root ∧
      ∀ top, top <+: root ↔ ∀ p ∈ paths, ∀ here, d.directoryOf p = .ok here → top <+: here := by
  obtain ⟨dirs, hdirs, hlength, hmem⟩ := exists_mapM_eq h
  cases dirs with
  | nil => exact absurd (List.length_eq_zero_iff.1 hlength.symm) hne
  | cons dir dirs =>
    refine ⟨dirs.foldl Path.commonNames dir, ?_, fun top => ?_⟩
    · rw [commonRoot, hdirs]
      rfl
    · rw [Path.prefix_foldl_commonNames]
      constructor
      · exact fun hall p hp here hhere => hall here ((hmem here).2 ⟨p, hp, hhere⟩)
      · intro hall x hx
        obtain ⟨p, hp, hx⟩ := (hmem x).1 hx
        exact hall p hp x hx

/-- A root of a project holds every path; it is the current directory, or the deepest directory that
does. -/
theorem exists_projectRoot (hne : paths ≠ [])
    (h : ∀ p ∈ paths, ∃ place here, Standing d p place here) (hcwd : d.HasDir d.cwd) :
    ∃ root, projectRoot d none paths = .ok (.ofNames root) ∧ d.HasDir root ∧
      (∀ p ∈ paths, ∀ place here, Standing d p place here → root <+: here) ∧
      (root = d.cwd ∨ ∀ top, d.HasDir top →
        (∀ p ∈ paths, ∀ place, d.resolve p = .ok place → top <+: place) → top <+: root) := by
  obtain ⟨b, hall, hb⟩ := allM_isLocal fun p hp =>
    let ⟨place, _, hp⟩ := h p hp
    ⟨place, hp.resolve⟩
  cases b with
  | true =>
    refine ⟨d.cwd, ?_, hcwd, fun p hp place here hstanding => ?_, Or.inl rfl⟩
    · rw [projectRoot, hall]
      rfl
    · exact hstanding.deepest d.cwd hcwd (hb rfl p hp place hstanding.resolve)
  | false =>
    obtain ⟨root, hroot, hdeepest⟩ := exists_commonRoot hne fun p hp =>
      let ⟨_, here, hp⟩ := h p hp
      ⟨here, hp.directoryOf⟩
    have hholds : ∀ p ∈ paths, ∀ place here, Standing d p place here → root <+: here :=
      fun p hp place here hstanding =>
        (hdeepest root).1 List.prefix_rfl p hp here hstanding.directoryOf
    obtain ⟨p, hp⟩ := List.exists_mem_of_ne_nil paths hne
    obtain ⟨place, here, hstanding⟩ := h p hp
    refine ⟨root, ?_, hstanding.hasDir.of_prefix (hholds p hp place here hstanding), hholds,
      Or.inr fun top htop habove => (hdeepest top).2 fun q hq here' hhere' => ?_⟩
    · rw [projectRoot, hall]
      show (do return Path.ofNames (← commonRoot d paths)) = _
      rw [hroot]
      rfl
    · obtain ⟨place', here'', hstanding'⟩ := h q hq
      rw [hstanding'.directoryOf, Except.ok.injEq] at hhere'
      exact hhere' ▸ hstanding'.deepest top htop (habove q hq place' hstanding'.resolve)

/-! ## Definitions below the root -/

/-- The nearest definitions are those that one of the directories brings along. -/
theorem exists_brings_of_nearest {s : DefinitionSet} {dirs : List Path}
    (h : (nearestDefinitions d j.config.encoding dirs j.host).1 = .ok (some s)) :
    ∃ dir ∈ dirs, Brings j d dir s := by
  induction dirs with
  | nil => cases h
  | cons dir dirs ih =>
    rcases definition_cases j d dir with hbare | ⟨t, hbrings⟩ | ⟨e, hfails⟩
    · rw [nearestDefinitions_of_bare hbare] at h
      obtain ⟨dir', hdir', hbrings⟩ := ih h
      exact ⟨dir', List.mem_cons_of_mem _ hdir', hbrings⟩
    · rw [nearestDefinitions_of_brings hbrings] at h
      obtain rfl : t = s := by simpa using h
      exact ⟨dir, List.mem_cons_self, hbrings⟩
    · rw [nearestDefinitions_of_fails hfails] at h
      cases h

/-- What an input takes is empty, or the nearest definitions. -/
theorem eq_of_taken {r : Except DefinitionError (Option DefinitionSet)} {s : DefinitionSet}
    (h : taken r = .ok s) : s = {} ∨ r = .ok (some s) := by
  rcases r with e | _ | t
  · rw [taken] at h
    split at h
    · cases h
    · exact Or.inl (Except.ok.inj h).symm
  · exact Or.inl (Except.ok.inj h).symm
  · exact Or.inr (congrArg (fun t => Except.ok (some t)) (Except.ok.inj h))

/-- The definitions for an input below the root come from a directory on the way up to the root, or
there are none. -/
theorem inheritedDefinitions_within {s : DefinitionSet} {scopes : List (List Text)}
    (hj : j.root = some root)
    (hchain : scopeChain d p (some (.ofNames root)) = .ok (scopes.map Path.ofNames))
    (h : (inheritedDefinitions j d p).1 = .ok s) :
    s = {} ∨ ∃ scope ∈ scopes, Brings j d (.ofNames scope) s := by
  have hchain' : scopeChain d p (j.root.map Path.ofNames) = .ok (scopes.map Path.ofNames) := by
    rw [hj]
    exact hchain
  rw [fst_inheritedDefinitions hchain'] at h
  refine (eq_of_taken h).imp_right fun hnearest => ?_
  obtain ⟨dir, hdir, hbrings⟩ := exists_brings_of_nearest hnearest
  have hmem : dir ∈ scopes.map Path.ofNames := by
    split at hdir
    · exact List.mem_of_mem_drop hdir
    · exact hdir
  obtain ⟨scope, hscope, rfl⟩ := List.mem_map.1 hmem
  exact ⟨scope, hscope, hbrings⟩

/-- Where no root is given, the root of a project is a directory that holds every input: the current
directory, or the deepest one that does. The directories that can decide about an input lead from
its own folder up to the root, and end there; and the definitions for the input come from one of
them, or there are none. -/
theorem projectRoot_bounds (hlinks : d.root.linkCount = 0) (hproper : d.root.namesProper = true)
    (hcwd : d.HasDir d.cwd) (hne : paths ≠ []) (hexists : ∀ p ∈ paths, d.exists? p = true) :
    ∃ root, projectRoot d none paths = .ok (.ofNames root) ∧
      d.isDir (.ofNames root) = true ∧
      (root = d.cwd ∨ ∀ top, d.HasDir top →
        (∀ p ∈ paths, ∀ place, d.resolve p = .ok place → top <+: place) → top <+: root) ∧
      ∀ p ∈ paths, ∃ place here scopes,
        d.resolve p = .ok place ∧ root <+: place ∧
        here = (if d.isDir p then place else place.dropLast) ∧
        scopeChain d p (some (.ofNames root)) = .ok (scopes.map Path.ofNames) ∧
        Ascends here root scopes ∧
        ∀ (j : Job) (s : DefinitionSet), j.root = some root →
          (inheritedDefinitions j d p).1 = .ok s →
          s = {} ∨ ∃ scope ∈ scopes, root <+: scope ∧ Brings j d (.ofNames scope) s := by
  have hstanding : ∀ p ∈ paths, ∃ place here, Standing d p place here := fun p hp =>
    exists_standing hlinks hproper hcwd (hexists p hp)
  obtain ⟨root, hroot, hdir, hholds, hwhich⟩ := exists_projectRoot hne hstanding hcwd
  refine ⟨root, hroot, hdir.isDir hlinks hproper, hwhich, fun p hp => ?_⟩
  obtain ⟨place, here, hp'⟩ := hstanding p hp
  have hhere : root <+: here := hholds p hp place here hp'
  have hresolve : d.resolve (.ofNames root) = .ok root := by
    obtain ⟨es, hes⟩ := hdir
    exact resolve_ofNames hlinks hproper hes List.prefix_rfl
  have hchain : scopeChain d p (some (.ofNames root)) =
      .ok ((scopesUpTo (some root) here).map Path.ofNames) := by
    rw [scopeChain, hp'.directoryOf]
    simp only [Option.mapM_some, hresolve]
    rfl
  refine ⟨place, here, scopesUpTo (some root) here, hp'.resolve, hhere.trans hp'.below, hp'.here_eq,
    hchain, ascends_scopesUpTo hhere, fun j s hj hs => ?_⟩
  rcases inheritedDefinitions_within hj hchain hs with hnone | ⟨scope, hscope, hbrings⟩
  · exact Or.inl hnone
  · exact Or.inr ⟨scope, hscope, ((mem_scopesUpTo_iff hhere).1 hscope).1, hbrings⟩

/-- Two folders beside the current directory, and a definition file above all three. -/
def neighbours : Disk where
  root := .dir [
    ("work".toList, .dir [("here".toList, .dir []), ("a".toList, .dir [("x.cs".toList, .file [])]),
      ("b".toList, .dir [])]),
    ("x.licenseheader".toList, .file (Utf8.encode "extensions: .cs\n// License: MIT\n".toList))]
  cwd := ["work".toList, "here".toList]

/-- Where a path that begins with a step up from the current directory leads. -/
theorem locate_neighbours {p : Path} {names : List Text} {n : Node} (hp : p.absolute = false)
    (hparts : p.parts = Path.up :: names) (hnames : ∀ name ∈ names, Path.isProper name = true)
    (hnode : neighbours.node? ("work".toList :: names) = some n) :
    neighbours.locate p = .ok ("work".toList :: names, n) := by
  have hnull : hasNull p = false := by
    rw [hasNull, hparts, List.any_cons, Bool.or_eq_false_iff]
    refine ⟨by decide, List.any_eq_false.2 fun name hname => ?_⟩
    exact Bool.eq_false_iff.1 (Path.no_null_of_isProper (hnames name hname))
  have hup : neighbours.follow maxLinks neighbours.cwd (Path.up :: names) =
      neighbours.follow maxLinks ["work".toList] names := by
    rw [Disk.follow_cons rfl]
    rfl
  rw [Disk.locate, hnull, if_neg Bool.false_ne_true, hp, if_neg Bool.false_ne_true, hparts, hup]
  exact Disk.follow_of_node? rfl maxLinks hnames hnode

/-- A file and a folder beside the current directory have the directory above them as the root. -/
theorem projectRoot_bounds_neighbours :
    let d := neighbours
    let paths := [Path.ofText "../a/x.cs".toList, Path.ofText "../b".toList]
    let root := ["work".toList]
    d.root.linkCount = 0 ∧ d.root.namesProper = true ∧ d.HasDir d.cwd ∧ paths ≠ [] ∧
      (∀ p ∈ paths, d.exists? p = true) ∧ projectRoot d none paths = .ok (.ofNames root) ∧
      d.isDir (.ofNames root) = true ∧
      ∀ p ∈ paths, ∃ here scopes,
        scopeChain d p (some (.ofNames root)) = .ok (scopes.map Path.ofNames) ∧
        Ascends here root scopes := by
  intro d paths root
  have hproper : d.root.namesProper = true := by decide
  have hcwd : d.HasDir d.cwd := ⟨[], rfl⟩
  have hfile : d.locate (.ofText "../a/x.cs".toList) =
      .ok (["work".toList, "a".toList, "x.cs".toList], .file []) :=
    locate_neighbours (by decide) (by decide) (by decide) rfl
  have hdirectory : d.locate (.ofText "../b".toList) =
      .ok (["work".toList, "b".toList], .dir []) :=
    locate_neighbours (by decide) (by decide) (by decide) rfl
  have hexists : ∀ p ∈ paths, d.exists? p = true := by
    intro p hp
    obtain rfl | rfl : p = .ofText "../a/x.cs".toList ∨ p = .ofText "../b".toList := by
      simpa [paths] using hp
    · rw [Disk.exists?, hfile]
      rfl
    · rw [Disk.exists?, hdirectory]
      rfl
  obtain ⟨root', hroot, hdir, hwhich, hall⟩ :=
    projectRoot_bounds (d := d) rfl hproper hcwd (List.cons_ne_nil _ _) hexists
  have hplaces : ∀ p ∈ paths, ∀ place, d.resolve p = .ok place → root <+: place := by
    intro p hp place hplace
    obtain rfl | rfl : p = .ofText "../a/x.cs".toList ∨ p = .ofText "../b".toList := by
      simpa [paths] using hp
    · rw [Disk.resolve_of_locate rfl hfile, Except.ok.injEq] at hplace
      exact hplace ▸ List.prefix_append root _
    · rw [Disk.resolve_of_locate rfl hdirectory, Except.ok.injEq] at hplace
      exact hplace ▸ List.prefix_append root _
  have hbelow : root' <+: root ++ ["a".toList, "x.cs".toList] ∧ root' <+: root ++ ["b".toList] := by
    obtain ⟨place, -, -, hplace, hle, -⟩ := hall _ List.mem_cons_self
    obtain ⟨place', -, -, hplace', hle', -⟩ := hall _ (List.mem_cons_of_mem _ List.mem_cons_self)
    rw [Disk.resolve_of_locate rfl hfile, Except.ok.injEq] at hplace
    rw [Disk.resolve_of_locate rfl hdirectory, Except.ok.injEq] at hplace'
    rw [← hplace] at hle
    rw [← hplace'] at hle'
    exact ⟨hle, hle'⟩
  -- The current directory is not above the inputs, so the root is the deepest one that is.
  have hdeepest : root <+: root' := by
    rcases hwhich with rfl | hdeepest
    · exact absurd hbelow.2 (by decide)
    · exact hdeepest root ⟨_, rfl⟩ hplaces
  obtain rfl : root' = root := by
    obtain ⟨up, rfl⟩ := hdeepest
    rw [List.prefix_append_right_inj, List.prefix_append_right_inj] at hbelow
    cases up with
    | nil => exact List.append_nil root
    | cons name up =>
      have hname : name = "a".toList := (List.cons_prefix_cons.1 hbelow.1).1
      have hname' : name = "b".toList := (List.cons_prefix_cons.1 hbelow.2).1
      rw [hname] at hname'
      exact absurd hname' (by decide)
  refine ⟨rfl, hproper, hcwd, List.cons_ne_nil _ _, hexists, hroot, hdir, fun p hp => ?_⟩
  obtain ⟨place, here, scopes, -, -, -, hchain, hascends, -⟩ := hall p hp
  exact ⟨here, scopes, hchain, hascends⟩

end Letterhead

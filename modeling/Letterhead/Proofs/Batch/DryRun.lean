import Letterhead.Proofs.Batch.Depth
import Letterhead.Proofs.Batch.Mirror

/-
  Dry runs over directories. In a tree without links a walk goes down each entry of a directory
  once, so it comes to no file twice, and definition files are left alone. So what it reads of the
  tree has not been written before, and a walk that writes goes as the dry run goes
  (`walk_mirrors`). What the dry run records tells which files are altered, and how
  (`dryRun_predicts`).
-/

namespace Letterhead

open Letterhead.Tree

variable {d : Disk} {b : Batch} {j : Job} {f : Text → Bool} {dir p : Path} {name : Text}
  {defs : Option DefinitionSet}

/-! ## Entering a directory -/

section Unlinked

variable (hlinks : d.root.linkCount = 0)

include hlinks

/-- Definition files are not altered. -/
theorem Batch.Sound.untouched_of_definition (hb : b.Sound d)
    (hname : Text.lower (Path.suffixOf name) = definitionExtension) :
    b.Untouched (dir.child name) := by
  intro place hplace hmem
  rw [hb.disk_eq] at hplace hmem
  obtain ⟨o, ho, hoplace⟩ := mem_changedPlaces_iff.1 hmem
  obtain ⟨c, hc, hofile⟩ := Outcome.place?_eq_some hoplace
  have hfits := hb.fits o ho c hc
  obtain ⟨dir', name', hpath, hup⟩ := hfits.entry
  exact place_ne_of_definition hlinks hname hup (hpath ▸ hfits.no_definition) hplace
    (hpath ▸ hofile) rfl

theorem Batch.enter_applied (hb : b.Sound d) (searching : Bool) (defs : Option DefinitionSet)
    (dir : Path) :
    b.applied.enter j.writing searching defs dir =
      ((b.enter j.dry searching defs dir).1, (b.enter j.dry searching defs dir).2.applied) := by
  have hown : ownDefinitions j.writing b.applied.disk dir = ownDefinitions j.dry b.disk dir :=
    ownDefinitions_congr j b.layout_applied fun name hname =>
      read_applied (hb.untouched_of_definition hlinks hname)
  unfold enter
  rw [hown]
  split
  · rfl
  · split <;> rfl

/-- What is altered below one entry of a directory is not below another one. -/
theorem Agree.fresh_sibling {os : List Outcome} {a : Batch} {name' : Text}
    (h : Agree d (dir.child name) os b a) (hup : name ≠ Path.up) (hup' : name' ≠ Path.up)
    (hne : name ≠ name') (hfresh : Fresh d os (dir.child name')) :
    Fresh d b.outcomes (dir.child name') := by
  intro place hplace hunder
  rcases h.inside place hplace with hold | hbelow
  · exact hfresh place hold hunder
  · exact hne (Disk.Under.child_inj hlinks hup hup' hbelow hunder)

end Unlinked

/-! ## Going through a directory -/

section Walk

variable (hdecider : j.decider = .rule f) (hwrites : ∀ p, j.writeRefusal p = none)
  (hinterrupts : j.interruptsAfterWrite = false)

include hdecider hwrites hinterrupts

theorem visit_mirrors {down down' : Batch → Path → Batch}
    (hdown : ∀ p, Mirrors d p (down · p) (down' · p)) (hname : isHidden name = false) :
    Mirrors d (dir.child name) (·.visit j.dry down defs (dir.child name))
      (·.visit j.writing down' defs (dir.child name)) := by
  intro b hb hfresh
  have hhidden : isHidden (dir.child name).name = false := by rw [Path.name_child, hname]
  have hexcludes : j.writing.excludes b.applied.disk (dir.child name) =
      j.dry.excludes b.disk (dir.child name) := b.excludes_applied (j := j) (dir.child name)
  simp only [Batch.visit, hhidden, Bool.false_eq_true, if_false, hexcludes, b.isDir_applied]
  rcases j.dry.excludes b.disk (dir.child name) with cause | excluded
  · exact ⟨rfl, ⟨hb.disk_eq, hb.nodup, hb.fits⟩, fun _ => Or.inl⟩
  · cases excluded with
    | true => exact Agree.refl hb
    | false =>
      by_cases hdir : b.disk.isDir (dir.child name) = true
      · simp only [hdir, if_true]
        exact hdown _ b hb hfresh
      · simp only [hdir]
        exact processFile_mirrors hdecider hwrites hinterrupts (ne_up_of_not_isHidden hname) b hb
          hfresh

theorem visitAll_mirrors (hlinks : d.root.linkCount = 0) {down down' : Batch → Path → Batch}
    (hdown : ∀ p, Mirrors d p (down · p) (down' · p)) {names : List Text} (hnames : names.Nodup)
    (hb : b.Sound d)
    (hfresh : ∀ name ∈ names, isHidden name = false → Fresh d b.outcomes (dir.child name)) :
    Agree d dir b.outcomes (b.visitAll j.dry down defs dir names)
      (b.applied.visitAll j.writing down' defs dir names) := by
  induction names generalizing b with
  | nil => exact Agree.refl hb
  | cons name names ih =>
    have hbroken : b.applied.isBroken = b.isBroken := rfl
    have hcancelled : b.applied.isCancelled j.writing = b.isCancelled j.dry :=
      b.isCancelled_applied (j := j)
    obtain ⟨hnew, hnames⟩ := List.nodup_cons.1 hnames
    rw [Batch.visitAll, Batch.visitAll, hbroken, hcancelled]
    split
    · exact Agree.refl hb
    · split
      · exact ⟨rfl, hb.note _, fun _ => Or.inl⟩
      · by_cases hhidden : isHidden name = true
        · rw [Batch.visit_of_isHidden hhidden, Batch.visit_of_isHidden hhidden]
          exact ih hnames hb fun name' hmem => hfresh name' (List.mem_cons_of_mem _ hmem)
        · have hvisible : isHidden name = false := Bool.eq_false_iff.2 hhidden
          have hup := ne_up_of_not_isHidden hvisible
          have hvisit : Agree d (dir.child name) b.outcomes
              (b.visit j.dry down defs (dir.child name))
              (b.applied.visit j.writing down' defs (dir.child name)) :=
            visit_mirrors hdecider hwrites hinterrupts hdown hvisible b hb
              (hfresh name List.mem_cons_self hvisible)
          rw [hvisit.applied]
          refine (ih hnames hvisit.sound fun name' hmem hvisible' => ?_).trans fun place hplace =>
            (hvisit.inside place hplace).imp_right (Disk.Under.of_child hlinks hup)
          exact hvisit.fresh_sibling hlinks hup (ne_up_of_not_isHidden hvisible')
            (ne_of_mem_of_not_mem hmem hnew).symm
            (hfresh name' (List.mem_cons_of_mem _ hmem) hvisible')

theorem walk_mirrors (hlinks : d.root.linkCount = 0) (hdistinct : d.root.namesDistinct = true)
    (searching : Bool) (depth : Nat) (defs : Option DefinitionSet) (p : Path) :
    Mirrors d p (·.walk j.dry searching depth defs p)
      (·.walk j.writing searching depth defs p) := by
  induction depth generalizing defs p with
  | zero => exact fun b hb _ => Agree.refl hb
  | succ depth ih =>
    intro b hb hfresh
    have hdisk := b.disk_enter (j := j.dry) searching defs p
    have houtcomes := b.outcomes_enter (j := j.dry) searching defs p
    dsimp only
    rw [Batch.walk, Batch.walk, Batch.enter_applied hlinks hb]
    dsimp only
    rw [← houtcomes] at hfresh ⊢
    have hb' : (b.enter j.dry searching defs p).2.Sound d :=
      ⟨hdisk.trans hb.disk_eq, houtcomes ▸ hb.nodup, houtcomes ▸ hb.fits⟩
    generalize b.enter j.dry searching defs p = entered at hfresh hb' ⊢
    obtain ⟨defs', b'⟩ := entered
    dsimp only at hfresh hb' ⊢
    rw [b'.list_applied]
    rcases hlist : b'.disk.list p with cause | names
    · dsimp only
      have hbroken : b'.applied.isBroken = b'.isBroken := rfl
      rw [hbroken]
      split
      · exact Agree.refl hb'
      · exact ⟨rfl, hb'.note _, fun _ => Or.inl⟩
    · rw [hb'.disk_eq] at hlist
      exact visitAll_mirrors hdecider hwrites hinterrupts hlinks (ih defs')
        (Disk.nodup_of_list hdistinct hlist) hb' fun name _ hvisible place hplace hunder =>
          hfresh place hplace (hunder.of_child hlinks (ne_up_of_not_isHidden hvisible))

theorem processDirectory_writing (hlinks : d.root.linkCount = 0)
    (hdistinct : d.root.namesDistinct = true) (searching : Bool) (defs : Option DefinitionSet)
    (dir : Path) :
    Batch.processDirectory j.writing searching defs { disk := d } dir =
        (Batch.processDirectory j.dry searching defs { disk := d } dir).applied ∧
      (Batch.processDirectory j.dry searching defs { disk := d } dir).Sound d := by
  have hstart : ({ disk := d } : Batch).Sound d := ⟨rfl, List.nodup_nil, fun o ho => nomatch ho⟩
  have h := walk_mirrors hdecider hwrites hinterrupts hlinks hdistinct searching
    d.maxDepth defs dir { disk := d } hstart fun place hplace => nomatch hplace
  exact ⟨h.applied, h.sound⟩

end Walk

/-! ## What a dry run tells -/

/-- What became of the files of a tree, when the changes that were recorded are replayed on it. -/
theorem Batch.Sound.fileAt?_applied (hb : b.Sound d) {o : Outcome} (ho : o ∈ b.outcomes)
    {c : Change} (hc : o.change? = some c) :
    ∃ place bytes, d.filePlace? o.path = some place ∧ d.fileAt? place = some bytes ∧
      b.applied.disk.fileAt? place =
        some ((if Utf8.mark <+: bytes then Utf8.mark else []) ++ Utf8.encode c.updated) ∧
      b.applied.disk.fileAt? place ≠ some bytes := by
  have hfits := hb.fits o ho c hc
  obtain ⟨place, bytes, file, hplace, hbytes, hfile, hbefore⟩ := hfits.opened
  have hreplay : b.applied.disk.fileAt? place =
      some (TextFile.toBytes { file with text := c.updated }) := by
    rw [Batch.applied, hb.disk_eq]
    exact fileAt?_replay_of_mem hb.nodup ho hc hplace hbytes hfile
  refine ⟨place, bytes, hplace, hbytes, ?_, ?_⟩
  · rw [hreplay, TextFile.toBytes_eq hfile]
  · rw [hreplay, Ne, Option.some.injEq]
    exact TextFile.toBytes_ne hfile fun heq => hfits.alters (heq.trans hbefore.symm)

/-- The files that are altered are those with a change. -/
theorem Batch.Sound.fileAt?_applied_ne_iff (hb : b.Sound d) {place : List Text} {bytes : Bytes}
    (hbytes : d.fileAt? place = some bytes) :
    b.applied.disk.fileAt? place ≠ some bytes ↔ ∃ o ∈ b.outcomes,
      (o.verdict = .applied ∨ o.verdict = .removed) ∧ d.filePlace? o.path = some place := by
  constructor
  · intro hne
    have hmem : place ∈ changedPlaces d b.outcomes := by
      by_contra hmem
      refine hne ?_
      rw [Batch.applied, hb.disk_eq, ← hbytes]
      exact fileAt?_replay_of_not_mem hmem
    obtain ⟨o, ho, hplace⟩ := mem_changedPlaces_iff.1 hmem
    obtain ⟨c, hc, hplace⟩ := Outcome.place?_eq_some hplace
    exact ⟨o, ho, o.verdict_iff.2 ⟨c, hc⟩, hplace⟩
  · rintro ⟨o, ho, hverdict, hplace⟩
    obtain ⟨c, hc⟩ := o.verdict_iff.1 hverdict
    obtain ⟨place', bytes', hplace', hbytes', -, hne⟩ := hb.fileAt?_applied ho hc
    obtain rfl : place = place' := Option.some.inj (hplace.symm.trans hplace')
    obtain rfl : bytes = bytes' := Option.some.inj (hbytes.symm.trans hbytes')
    exact hne

/-- A dry run predicts the run that writes. In a tree without links, in which the names of each
directory are distinct, and with a rule to decide about headers that are not valid, both record
the same outcomes, but for the marks of the changes as written. The dry run leaves the tree as it
is. The run that writes alters exactly the files with a change: each gets the byte order mark that
it has and the document that the dry run told. -/
theorem dryRun_predicts (searching : Bool) (defs : Option DefinitionSet) (dir : Path)
    (hlinks : d.root.linkCount = 0) (hdistinct : d.root.namesDistinct = true)
    (hdecider : j.decider = .rule f) (hwrites : ∀ p, j.writeRefusal p = none)
    (hinterrupts : j.interruptsAfterWrite = false) :
    let dry := Batch.processDirectory { j with applies := false } searching defs { disk := d } dir
    let done := Batch.processDirectory { j with applies := true } searching defs { disk := d } dir
    (∀ o ∈ dry.outcomes, ∀ c, o.change? = some c → c.written = false) ∧
      done.outcomes = dry.outcomes.map Outcome.asWritten ∧
      dry.disk = d ∧ done.disk.layout = d.layout ∧
      (∀ place bytes, d.fileAt? place = some bytes →
        (done.disk.fileAt? place ≠ some bytes ↔ ∃ o ∈ done.outcomes,
          (o.verdict = .applied ∨ o.verdict = .removed) ∧ d.filePlace? o.path = some place)) ∧
      ∀ o ∈ done.outcomes, o.verdict = .applied ∨ o.verdict = .removed →
        ∃ c place bytes, o.change? = some c ∧ d.filePlace? o.path = some place ∧
          d.fileAt? place = some bytes ∧ done.disk.fileAt? place =
            some ((if Utf8.mark <+: bytes then Utf8.mark else []) ++ Utf8.encode c.updated) := by
  intro dry done
  obtain ⟨hdone, hsound⟩ : done = dry.applied ∧ dry.Sound d :=
    processDirectory_writing hdecider hwrites hinterrupts hlinks hdistinct searching defs dir
  rw [hdone]
  refine ⟨fun o ho c hc => (hsound.fits o ho c hc).unwritten, rfl, hsound.disk_eq, ?_, ?_, ?_⟩
  · rw [dry.layout_applied, hsound.disk_eq]
  · intro place bytes hbytes
    rw [hsound.fileAt?_applied_ne_iff hbytes, Batch.applied]
    simp only [List.mem_map, exists_exists_and_eq_and, Outcome.verdict_asWritten]
    rfl
  · intro o' ho' hverdict
    obtain ⟨o, ho, rfl⟩ := List.mem_map.1 ho'
    rw [o.verdict_asWritten, o.verdict_iff] at hverdict
    obtain ⟨c, hc⟩ := hverdict
    obtain ⟨place, bytes, hplace, hbytes, hnew, -⟩ := hsound.fileAt?_applied ho hc
    exact ⟨{ c with written := true }, place, bytes, by rw [o.change?_asWritten, hc]; rfl, hplace,
      hbytes, hnew⟩

/-- A directory with one source file, which has a byte order mark and a license line. -/
def licensedSource : Disk where
  root := .dir [("a.cs".toList,
    .file (Utf8.mark ++ Utf8.encode "// License: MIT\nclass A {}\n".toList))]
  cwd := []

/-- A job that knows one language and configures nothing. -/
def plainJob : Job where
  languages := ⟨[Language.BuiltIn.csharp], by decide⟩
  config := ⟨[], false, [], none, none, [], []⟩
  root := none
  exclusions := []
  now := ⟨2024, 1, 1, 0, 0, 0⟩
  user := none
  created := fun _ => none
  applies := false
  decider := .rule fun _ => false

theorem locate_licensedSource :
    licensedSource.locate (.ofNames ["a.cs".toList]) = .ok (["a.cs".toList],
      .file (Utf8.mark ++ Utf8.encode "// License: MIT\nclass A {}\n".toList)) := by
  have hnull : hasNull (.ofNames ["a.cs".toList]) = false := by decide
  have hup : "a.cs".toList ≠ Path.up := by decide
  have hfollow : licensedSource.follow maxLinks [] ["a.cs".toList] =
      licensedSource.follow maxLinks ["a.cs".toList] [] := by
    rw [Disk.follow_cons rfl]
    exact if_neg hup
  rw [Disk.locate, hnull, if_neg Bool.false_ne_true]
  exact hfollow.trans (by rw [Disk.follow]; rfl)

theorem filePlace?_licensedSource :
    licensedSource.filePlace? (.ofNames ["a.cs".toList]) = some ["a.cs".toList] := by
  rw [Disk.filePlace?, locate_licensedSource]

theorem openDocument_licensedSource :
    let s := "// License: MIT\nclass A {}\n".toList
    let p := Path.ofNames ["a.cs".toList]
    plainJob.openDocument licensedSource none p =
      (plainJob.document licensedSource none p ⟨true, s⟩, []) := by
  intro s p
  exact plainJob.openDocument_of_file filePlace?_licensedSource rfl (by decide +kernel)
    (by decide +kernel) rfl none

theorem outcomes_licensedSource :
    (Batch.processDirectory plainJob.dry false none { disk := licensedSource }
        (.ofNames [])).outcomes =
      [⟨.ofNames ["a.cs".toList],
        .changed ⟨.remove, "// License: MIT\nclass A {}\n".toList, "class A {}\n".toList, false⟩⟩] := by
  have hlist : licensedSource.list (.ofNames []) = .ok ["a.cs".toList] := by
    have htop : licensedSource.locate (.ofNames []) = .ok ([], licensedSource.root) := by
      rw [Disk.locate]
      exact Disk.follow.eq_1 _ _ _
    rw [Disk.list, htop]
    exact congrArg Except.ok (List.mergeSort_singleton _)
  have hdir : licensedSource.isDir (.ofNames ["a.cs".toList]) = false := by
    rw [Disk.isDir, locate_licensedSource]
  have hchild : (Path.ofNames []).child "a.cs".toList = .ofNames ["a.cs".toList] := rfl
  have hwalk : Batch.processDirectory plainJob.dry false none { disk := licensedSource }
      (.ofNames []) = Batch.walk plainJob.dry false 2 none { disk := licensedSource } (.ofNames []) :=
    Batch.processDirectory_eq_walk rfl false (by decide +kernel) none _
  have henter : ({ disk := licensedSource } : Batch).enter plainJob.dry false none (.ofNames []) =
      (none, { disk := licensedSource }) := rfl
  have hopen : plainJob.dry.openDocument licensedSource none (.ofNames ["a.cs".toList]) = _ :=
    openDocument_licensedSource
  rw [hwalk, Batch.walk, henter]
  dsimp only
  rw [hlist]
  dsimp only
  rw [Batch.visitAll, hchild, Batch.visit, hdir, Batch.processFile, Batch.handle, hopen]
  decide +kernel

/-- Without definitions the license line is taken off, behind the byte order mark. -/
theorem dryRun_predicts_removal :
    let d := licensedSource
    let j := plainJob
    let p := Path.ofNames ["a.cs".toList]
    let s := "// License: MIT\nclass A {}\n".toList
    let t := "class A {}\n".toList
    let dry := Batch.processDirectory { j with applies := false } false none { disk := d }
      (.ofNames [])
    let done := Batch.processDirectory { j with applies := true } false none { disk := d }
      (.ofNames [])
    d.root.linkCount = 0 ∧ d.root.namesDistinct = true ∧ j.decider = .rule (fun _ => false) ∧
      (∀ p, j.writeRefusal p = none) ∧ j.interruptsAfterWrite = false ∧
      dry.outcomes = [⟨p, .changed ⟨.remove, s, t, false⟩⟩] ∧ dry.disk = d ∧
      done.outcomes = [⟨p, .changed ⟨.remove, s, t, true⟩⟩] ∧
      done.disk.fileAt? ["a.cs".toList] = some (Utf8.mark ++ Utf8.encode t) := by
  intro d j p s t dry done
  have hlinks : d.root.linkCount = 0 := rfl
  have hdistinct : d.root.namesDistinct = true := by decide
  have hdry : dry.outcomes = [⟨p, .changed ⟨.remove, s, t, false⟩⟩] := outcomes_licensedSource
  obtain ⟨-, hsame, hdisk, -, -, hbytes⟩ := dryRun_predicts false none (.ofNames []) hlinks
    hdistinct (j := j) rfl (fun _ => rfl) rfl
  have hdone : done.outcomes = [⟨p, .changed ⟨.remove, s, t, true⟩⟩] := by
    rw [hsame, hdry]
    rfl
  obtain ⟨c, place, bytes, hc, hplace, hold, hnew⟩ := hbytes _ (hdone ▸ List.mem_cons_self)
    (Or.inr rfl)
  obtain rfl := Option.some.inj hc
  obtain rfl := Option.some.inj (filePlace?_licensedSource.symm.trans hplace)
  obtain rfl := Option.some.inj hold
  rw [if_pos (List.prefix_append _ _)] at hnew
  exact ⟨hlinks, hdistinct, rfl, fun _ => rfl, rfl, hdry, hdisk, hdone, hnew⟩

end Letterhead

import Letterhead.Command.Options
import Letterhead.Config.File
import Letterhead.Proofs.Config.Layers
import Letterhead.Proofs.Header.Removal

/-
  Keywords on the command line. The settings that inputs get are layers over the defaults
  (`exists_stack_of_loadMerged`), and the keywords that are given take the place of those that the
  layers give, without the blank space around them. Whether keywords are in use is not theirs to say:
  none are in use exactly where the innermost layer that sets the switch turns keywords off
  (`effectiveKeywords_override`, `turnedOff_iff`). Where keywords are in use, nothing counts as a
  header, and nothing is deleted, unless a block holds one of those given or the text begins with
  the header to write (`given_keywords_enforced`).
-/

namespace Letterhead

open Letterhead.Tree

variable {parse : Toml.Reader} {d : Draft} {ds : List Draft} {o : Overrides} {ks : List Text}

/-! ## Layers -/

/-- Drafts laid over each other, the outermost first. -/
def Draft.stack (ds : List Draft) : Draft := ds.foldl Draft.merge {}

theorem Draft.stack_cons (d : Draft) (ds : List Draft) :
    Draft.stack (d :: ds) = ds.foldl Draft.merge d := by
  have hfirst : Draft.merge {} d = d := by
    cases d
    simp [Draft.merge]
  rw [Draft.stack, List.foldl_cons, hfirst]

theorem Draft.stack_concat (ds : List Draft) (d : Draft) :
    Draft.stack (ds ++ [d]) = (Draft.stack ds).merge d := by
  rw [Draft.stack, List.foldl_concat, Draft.stack]

/-- Files that are laid over layers are further layers. -/
theorem exists_stack_of_mergeFiles {disk : Disk} {files : List Path}
    (h : mergeFiles disk (Draft.stack ds) files parse = .ok d) :
    ∃ es, d = Draft.stack (ds ++ es) := by
  rw [mergeFiles] at h
  induction files generalizing ds with
  | nil => exact ⟨[], by rw [List.append_nil]; exact (Except.ok.inj h).symm⟩
  | cons p files ih =>
    rw [List.foldlM_cons] at h
    cases hload : loadDraft disk p parse with
    | error e => rw [hload] at h; cases h
    | ok upper? =>
      rw [hload] at h
      cases upper? with
      | none => exact ih h
      | some upper =>
        have hnext : (Draft.stack ds).merge upper = Draft.stack (ds ++ [upper]) :=
          (Draft.stack_concat ds upper).symm
        simp only [bind, Except.bind, pure, Except.pure, hnext] at h
        obtain ⟨es, hes⟩ := ih h
        exact ⟨upper :: es, by rw [hes, List.append_assoc, List.singleton_append]⟩

/-- The settings that inputs get are layers over the defaults. -/
theorem exists_stack_of_loadMerged {disk : Disk} {inputs extra : List Path} {discovers : Bool}
    (h : loadMerged disk inputs extra discovers parse = .ok d) :
    ∃ ds, d = Draft.stack (Draft.defaults :: ds) := by
  have hdefaults : Draft.defaults = Draft.stack [Draft.defaults] := (Draft.stack_cons _ []).symm
  rw [loadMerged] at h
  dsimp only at h
  cases discovers with
  | false =>
    rw [if_neg Bool.false_ne_true, hdefaults] at h
    exact exists_stack_of_mergeFiles h
  | true =>
    rw [if_pos rfl, hdefaults] at h
    cases hfound : discover disk (inputs.head?.getD (.ofNames disk.cwd)) parse with
    | error e => rw [hfound] at h; cases h
    | ok files =>
      rw [hfound] at h
      simp only [bind, Except.bind] at h
      cases hfiles : mergeFiles disk (Draft.stack [Draft.defaults]) files parse with
      | error e => rw [hfiles] at h; cases h
      | ok lower =>
        rw [hfiles] at h
        obtain ⟨found, rfl⟩ := exists_stack_of_mergeFiles hfiles
        obtain ⟨further, hfurther⟩ := exists_stack_of_mergeFiles h
        exact ⟨found ++ further, hfurther⟩

/-! ## The switch -/

/-- The innermost of the drafts that set the switch turns keywords off. -/
def TurnedOff (ds : List Draft) : Prop := (ds.filterMap Draft.useKeywords).getLast? = some false

theorem turnedOff_iff : TurnedOff ds ↔ (Draft.stack ds).useKeywords = some false := by
  have hswitch := Draft.foldl_merge Draft.overlaid_useKeywords.merge ds {}
  rw [Option.or_none] at hswitch
  rw [TurnedOff, Draft.stack, hswitch]

/-! ## The keywords in use -/

theorem normalKeywords_eq (ks : List Text) :
    normalKeywords ks = (Text.trimmedEntries ks).map Text.lower := by
  rw [Text.trimmedEntries, List.map_map]
  rfl

theorem normalKeywords_trimmedEntries (ks : List Text) :
    normalKeywords (Text.trimmedEntries ks) = normalKeywords ks := by
  have htwice : Text.trimmedEntries (Text.trimmedEntries ks) = Text.trimmedEntries ks :=
    Text.trimmedEntries_eq_self_iff.2 fun s hs => Text.of_mem_trimmedEntries hs
  rw [normalKeywords_eq, normalKeywords_eq, htwice]

theorem trimmedEntries_ne_nil (hk : ∃ k ∈ ks, Text.allBlank k = false) :
    Text.trimmedEntries ks ≠ [] := by
  have hne := normalKeywords_ne_nil hk
  rw [normalKeywords_eq] at hne
  exact fun h => hne (by rw [h]; rfl)

/-- Given keywords are those in use, if any are. -/
theorem effectiveKeywords_override (huse : o.useKeywords = none) (hks : o.keywords = ks)
    (hk : ∃ k ∈ ks, Text.allBlank k = false) :
    (d.override o).freeze.effectiveKeywords =
      if d.useKeywords = some false then none else some (Text.trimmedEntries ks) := by
  have hne : ks ≠ [] := by
    obtain ⟨k, hmem, -⟩ := hk
    exact List.ne_nil_of_mem hmem
  have hswitch : (d.override o).freeze.useKeywords = d.useKeywords.getD true := by
    cases hd : d.useKeywords <;> simp [Draft.freeze, Draft.override, huse, hd, hks, hne]
  have hkeywords : (d.override o).freeze.keywords = Text.trimmedEntries ks := by
    simp [Draft.freeze, Draft.override, hks, hne, Text.trimmedEntries]
  rw [Config.effectiveKeywords, hswitch, hkeywords]
  rcases d.useKeywords with _ | _ | _ <;> simp [trimmedEntries_ne_nil hk]

/-! ## What counts as a header -/

namespace HeaderRule

variable (r : HeaderRule)

/-- With keywords, what counts as a header has a block that holds one, or is below the beginning of
the header to write. -/
theorem exists_keyword_of_existing {r : HeaderRule} (hk : r.keywords ≠ []) {s : Text}
    (h : r.existing s ≠ []) :
    (∃ b ∈ r.style.blocks s, r.hasKeyword b = true) ∨ r.beginsWithHeader s = true := by
  by_contra hnone
  obtain ⟨hblocks, hbegins⟩ := not_or.1 hnone
  refine h (existing_of_no_keyword hk (fun b hb => ?_) (Bool.eq_false_iff.2 hbegins))
  exact Bool.eq_false_iff.2 fun hkey => hblocks ⟨b, hb, hkey⟩

/-- Nothing is deleted but what counts as a header. -/
theorem deleted_eq (s : Text) :
    (r.plan s).deleted = [] ∨ (r.plan s).deleted = r.existing (r.body s) := by
  have hplan := r.plans_plan s
  generalize r.plan s = p at hplan
  cases hplan with
  | keep => exact Or.inl rfl
  | remove => exact Or.inr rfl
  | write => exact Or.inr rfl

end HeaderRule

theorem keywords_of_document {j : Job} {disk : Disk} {defs : Option DefinitionSet} {p : Path}
    {file : TextFile} {doc : Document} (h : j.document disk defs p file = .ok doc) :
    doc.rule.keywords = normalKeywords (j.config.effectiveKeywords.getD []) := by
  rw [Job.document] at h
  split at h
  · cases h
  · split at h
    · cases h
    · rw [← Except.ok.inj h]
      rfl

/-- Keywords on the command line that are not all blank are those in use, without the blank space
around them and without blank ones, unless the innermost layer that sets the switch turns keywords
off; then none are in use. Where they are in use, nothing is deleted from a document but what counts
as its header, and that has a block that holds one of them, or the text begins with the header to
write. The settings that inputs get are such layers, of which the defaults are the outermost. -/
theorem given_keywords_enforced (ds : List Draft) (hk : ∃ k ∈ ks, Text.allBlank k = false)
    (excludePatterns : List Text) (projectName encoding : Option Text) :
    let o : Overrides := { (Command.keywordOverrides? true ks).getD {} with
      excludePatterns, projectName, encoding }
    let c := ((Draft.stack ds).override o).freeze
    (TurnedOff ds → c.effectiveKeywords = none) ∧
    (¬ TurnedOff ds → c.effectiveKeywords = some (Text.trimmedEntries ks) ∧
      ∀ (j : Job) (disk : Disk) (defs : Option DefinitionSet) (p : Path) (file : TextFile)
        (doc : Document), j.config = c → j.document disk defs p file = .ok doc → ∀ s : Text,
        ((doc.rule.plan s).deleted = [] ∨
          (doc.rule.plan s).deleted = doc.rule.existing (doc.rule.body s)) ∧
        (doc.rule.existing (doc.rule.body s) ≠ [] →
          (∃ b ∈ doc.rule.style.blocks (doc.rule.body s), HoldsKeyword ks b) ∨
            doc.rule.beginsWithHeader (doc.rule.body s) = true)) ∧
    ∀ (parse : Toml.Reader) (disk : Disk) (inputs extra : List Path) (discovers : Bool) (d : Draft),
      loadMerged disk inputs extra discovers parse = .ok d →
      ∃ layers, d = Draft.stack (Draft.defaults :: layers) := by
  intro o c
  have hne : ks ≠ [] := by
    obtain ⟨k, hmem, -⟩ := hk
    exact List.ne_nil_of_mem hmem
  have hoverrides : Command.keywordOverrides? true ks = some { keywords := ks } := by
    simp [Command.keywordOverrides?, hne]
  have hkeywords : o.keywords = ks := by
    simp only [o, hoverrides, Option.getD_some]
  have huse : o.useKeywords = none := by
    simp only [o, hoverrides, Option.getD_some]
  have heffective : c.effectiveKeywords = _ := effectiveKeywords_override huse hkeywords hk
  rw [turnedOff_iff, heffective]
  refine ⟨fun hoff => if_pos hoff, fun hon => ?_,
    fun _ _ _ _ _ _ hload => exists_stack_of_loadMerged hload⟩
  rw [if_neg hon] at heffective ⊢
  refine ⟨rfl, fun j disk defs p file doc hconfig hdoc s => ⟨doc.rule.deleted_eq s, ?_⟩⟩
  intro hexisting
  have hrule := keywords_of_document hdoc
  rw [hconfig, heffective, Option.getD_some, normalKeywords_trimmedEntries] at hrule
  have hrule_ne : doc.rule.keywords ≠ [] := hrule ▸ normalKeywords_ne_nil hk
  refine (HeaderRule.exists_keyword_of_existing hrule_ne hexisting).imp_left ?_
  rintro ⟨x, hx, hkey⟩
  exact ⟨x, hx, (HeaderRule.hasKeyword_iff hrule).1 hkey⟩

/-- Layers over the defaults that set the switch and nothing else. -/
def switches (flags : List Bool) : List Draft :=
  Draft.defaults :: flags.map fun b => { useKeywords := some b }

/-- The rule that takes headers off C# files where the keywords are in use. -/
def removalRule (keywords : List Text) : HeaderRule :=
  ⟨Language.BuiltIn.csharp.style, none, keywords, LineBreak.lf.text⟩

/-- A job that knows the built-in languages, and takes its keywords from a configuration. -/
def removalJob (c : Config) : Job where
  languages := .builtIn
  config := c
  root := none
  exclusions := []
  now := ⟨2024, 1, 1, 0, 0, 0⟩
  user := none
  created := fun _ => none
  applies := true
  decider := .rule fun _ => false

/-- The document of a C# file that has its header taken off. -/
theorem document_removalJob {c : Config} {keywords : List Text} {s : Text}
    (hc : normalKeywords (c.effectiveKeywords.getD []) = keywords)
    (hs : Text.dominantBreak s = .lf) :
    (removalJob c).document ⟨.dir [], []⟩ none (.ofNames ["a.cs".toList]) ⟨false, s⟩ =
      .ok ⟨⟨false, s⟩, Language.BuiltIn.csharp, removalRule keywords⟩ := by
  have hlanguage : ∀ c : Config, (removalJob c).languages.lookup?
      (Path.ofNames ["a.cs".toList]).name = some Language.BuiltIn.csharp := fun _ => rfl
  rw [Job.document, hlanguage, ← hc, removalRule, ← hs]
  rfl

/-- Over a layer that turns keywords off and one that turns them on again, the one keyword that is
given is in use, and the comment that holds it counts as the header. -/
theorem given_keywords_enforced_in_comment :
    let ds := switches [false, true]
    let ks := [" SPDX ".toList, " ".toList]
    let s := "// note\n\n// spdx: MIT\nclass A {}\n".toList
    let o : Overrides := { (Command.keywordOverrides? true ks).getD {} with
      excludePatterns := [], projectName := none, encoding := none }
    let c := ((Draft.stack ds).override o).freeze
    let rule := removalRule ["spdx".toList]
    (∃ k ∈ ks, Text.allBlank k = false) ∧ ¬ TurnedOff ds ∧
      c.effectiveKeywords = some ["SPDX".toList] ∧
      (removalJob c).document ⟨.dir [], []⟩ none (.ofNames ["a.cs".toList]) ⟨false, s⟩ =
        .ok ⟨⟨false, s⟩, Language.BuiltIn.csharp, rule⟩ ∧
      rule.existing (rule.body s) = "// note\n\n// spdx: MIT\n".toList ∧
      ∃ b ∈ rule.style.blocks (rule.body s), HoldsKeyword ks b := by
  intro ds ks s o c rule
  have hk : ∃ k ∈ ks, Text.allBlank k = false := ⟨_, List.mem_cons_self, by decide⟩
  have hon : ¬ TurnedOff ds := nofun
  obtain ⟨heffective, hdocument⟩ := (given_keywords_enforced ds hk [] none none).2.1 hon
  have hc : c.effectiveKeywords = some ["SPDX".toList] := heffective.trans (by decide)
  have hdoc : (removalJob c).document ⟨.dir [], []⟩ none (.ofNames ["a.cs".toList]) ⟨false, s⟩ =
      .ok ⟨⟨false, s⟩, Language.BuiltIn.csharp, rule⟩ :=
    document_removalJob (by rw [hc]; decide +kernel) (by decide +kernel)
  have hexisting : rule.existing (rule.body s) = "// note\n\n// spdx: MIT\n".toList := by
    decide +kernel
  refine ⟨hk, hon, hc, hdoc, hexisting, ?_⟩
  refine ((hdocument _ _ _ _ _ _ rfl hdoc s).2 ?_).resolve_right ?_
  · change rule.existing (rule.body s) ≠ []
    rw [hexisting]
    exact List.cons_ne_nil _ _
  · exact Bool.false_ne_true

/-- A layer that turns keywords off keeps them off: none are in use although one is given, and a
comment that does not hold it is deleted. -/
theorem given_keywords_not_in_use :
    let ts : List Table :=
      [[("keywords".toList, .table [("use_required_keywords".toList, .bool false)])]]
    let ks := ["spdx".toList]
    let s := "// note\nclass A {}\n".toList
    let d := Draft.stack (switches [false])
    let c := (d.override ((Command.keywordOverrides? true ks).getD {})).freeze
    let rule := removalRule []
    Draft.ofLayers ts = .ok d ∧ (∃ k ∈ ks, Text.allBlank k = false) ∧
      Text.trimmedEntries ks = ks ∧ c.effectiveKeywords = none ∧
      (removalJob c).document ⟨.dir [], []⟩ none (.ofNames ["a.cs".toList]) ⟨false, s⟩ =
        .ok ⟨⟨false, s⟩, Language.BuiltIn.csharp, rule⟩ ∧
      (rule.plan s).action = .remove ∧ (rule.plan s).deleted = "// note\n".toList ∧
      ∀ b ∈ rule.style.blocks (rule.body s), ¬ HoldsKeyword ks b := by
  intro ts ks s d c rule
  have hc : c.effectiveKeywords = none := rfl
  have hdoc : (removalJob c).document ⟨.dir [], []⟩ none (.ofNames ["a.cs".toList]) ⟨false, s⟩ =
      .ok ⟨⟨false, s⟩, Language.BuiltIn.csharp, rule⟩ :=
    document_removalJob (by rw [hc]; rfl) (by decide +kernel)
  have hblocks : ∀ b ∈ rule.style.blocks (rule.body s),
      (removalRule (normalKeywords ks)).hasKeyword b = false := by decide +kernel
  refine ⟨rfl, ⟨_, List.mem_cons_self, by decide⟩, by decide, hc, hdoc, by decide +kernel,
    by decide +kernel, fun b hb hholds => ?_⟩
  rw [← HeaderRule.hasKeyword_iff (r := removalRule (normalKeywords ks)) rfl, hblocks b hb] at hholds
  cases hholds

end Letterhead

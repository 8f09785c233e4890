import Letterhead.Language.Table
import Letterhead.Proofs.Definition.Entries
import Letterhead.Proofs.Definition.FileName
import Mathlib.Order.Bounds.Basic

/-
  What the longest extension decides. A language table and a definition set both look for the
  extensions that a file name ends with, whatever the case of the letters, and let the longest of
  them decide, the earliest where several are equally long (`FirstLargest`). The length of an
  extension is all that counts, so one that is longer wins whatever it stands for
  (`longest_extension_decides`).
-/

namespace Letterhead

/-- A file name ends with an extension, whatever the case of the letters. -/
def EndsWith (name ext : Text) : Prop := Text.lower ext <:+ Text.lower name

instance (name ext : Text) : Decidable (EndsWith name ext) :=
  inferInstanceAs (Decidable (_ <:+ _))

theorem hasExtension_iff {name ext : Text} : hasExtension name ext = true ↔ EndsWith name ext :=
  Text.endsWith_iff

/-! ## The earliest of the largest entries -/

section Largest

variable {α : Type} {size : α → Nat} {p : α → Bool} {xs : List α} {x y : α}

/-- An entry that passes a test and is larger than all such entries before it and at least as large
as all such entries after it. -/
def FirstLargest (p : α → Prop) (size : α → Nat) (xs : List α) (x : α) : Prop :=
  p x ∧ ∃ before after, xs = before ++ x :: after ∧
    (∀ y ∈ before, p y → size y < size x) ∧ ∀ y ∈ after, p y → size y ≤ size x

theorem FirstLargest.size_le {p : α → Prop} (h : FirstLargest p size xs x) (hy : y ∈ xs)
    (hp : p y) : size y ≤ size x := by
  obtain ⟨-, before, after, rfl, hbefore, hafter⟩ := h
  rcases List.mem_append.1 hy with hy | hy
  · exact Nat.le_of_lt (hbefore y hy hp)
  · rcases List.mem_cons.1 hy with rfl | hy
    · exact Nat.le_refl _
    · exact hafter y hy hp

theorem firstLargest_of_eq_some (h : firstLargest? size (xs.filter p) = some x) :
    FirstLargest (fun y => p y = true) size xs x := by
  induction xs generalizing x with
  | nil => cases h
  | cons a xs ih =>
    by_cases ha : p a = true
    · rw [List.filter_cons_of_pos ha, firstLargest?] at h
      cases hrest : firstLargest? size (xs.filter p) with
      | none =>
        rw [hrest] at h
        obtain rfl : a = x := Option.some.inj h
        rw [firstLargest?_eq_none_iff, List.filter_eq_nil_iff] at hrest
        exact ⟨ha, [], xs, rfl, by simp, fun y hy hp => absurd hp (hrest y hy)⟩
      | some y =>
        have hy := ih hrest
        rw [hrest] at h
        dsimp only at h
        by_cases hlt : size a < size y
        · rw [if_pos hlt] at h
          obtain rfl : y = x := Option.some.inj h
          obtain ⟨hp, before, after, rfl, hbefore, hafter⟩ := hy
          exact ⟨hp, a :: before, after, rfl,
            List.forall_mem_cons.2 ⟨fun _ => hlt, hbefore⟩, hafter⟩
        · rw [if_neg hlt] at h
          obtain rfl : a = x := Option.some.inj h
          refine ⟨ha, [], xs, rfl, by simp, fun z hz hp => ?_⟩
          exact (hy.size_le hz hp).trans (Nat.le_of_not_lt hlt)
    · rw [List.filter_cons_of_neg ha] at h
      obtain ⟨hp, before, after, rfl, hbefore, hafter⟩ := ih h
      exact ⟨hp, a :: before, after, rfl,
        List.forall_mem_cons.2 ⟨fun hpa => absurd hpa ha, hbefore⟩, hafter⟩

theorem eq_some_of_firstLargest (h : FirstLargest (fun y => p y = true) size xs x) :
    firstLargest? size (xs.filter p) = some x := by
  obtain ⟨hp, before, after, rfl, hbefore, hafter⟩ := h
  induction before with
  | nil =>
    rw [List.nil_append, List.filter_cons_of_pos hp, firstLargest?]
    cases hrest : firstLargest? size (after.filter p) with
    | none => rfl
    | some y =>
      have hy := List.mem_filter.1 (mem_of_firstLargest? hrest)
      dsimp only
      rw [if_neg (Nat.not_lt.2 (hafter y hy.1 hy.2))]
  | cons a before ih =>
    rw [List.forall_mem_cons] at hbefore
    rw [List.cons_append]
    by_cases ha : p a = true
    · rw [List.filter_cons_of_pos ha, firstLargest?, ih hbefore.2]
      dsimp only
      rw [if_pos (hbefore.1 ha)]
    · rw [List.filter_cons_of_neg ha, ih hbefore.2]

theorem firstLargest?_filter_eq_some_iff :
    firstLargest? size (xs.filter p) = some x ↔ FirstLargest (fun y => p y = true) size xs x :=
  ⟨firstLargest_of_eq_some, eq_some_of_firstLargest⟩

end Largest

/-! ## Languages -/

namespace Language

variable {l : Language} {name : Text}

/-- The lengths of the extensions of a language that a file name ends with. -/
def lengths (l : Language) (name : Text) : Set Nat :=
  {n | ∃ ext ∈ l.extensions, EndsWith name ext ∧ ext.length = n}

theorem matchLength_eq (l : Language) (name : Text) :
    l.matchLength name =
      (((l.extensions.filter (hasExtension name)).map List.length).max?).getD 0 := by
  rw [matchLength, List.foldl_max, Nat.zero_max]

theorem isGreatest_matchLength {n : Nat} (hn : n ∈ l.lengths name) :
    IsGreatest (l.lengths name) (l.matchLength name) := by
  obtain ⟨ext, hext, hends, rfl⟩ := hn
  have hmem : ext.length ∈ (l.extensions.filter (hasExtension name)).map List.length :=
    List.mem_map_of_mem (List.mem_filter.2 ⟨hext, hasExtension_iff.2 hends⟩)
  obtain ⟨m, hm⟩ := Option.ne_none_iff_exists'.1
    (mt List.max?_eq_none_iff.1 (List.ne_nil_of_mem hmem))
  obtain ⟨hlongest, hmax⟩ := List.max?_eq_some_iff.1 hm
  rw [matchLength_eq, hm, Option.getD_some]
  constructor
  · obtain ⟨e, he, rfl⟩ := List.mem_map.1 hlongest
    exact ⟨e, (List.mem_filter.1 he).1, hasExtension_iff.1 (List.mem_filter.1 he).2, rfl⟩
  · rintro k ⟨e, he, hends, rfl⟩
    exact hmax _ (List.mem_map_of_mem (List.mem_filter.2 ⟨he, hasExtension_iff.2 hends⟩))

theorem matchLength_eq_zero (h : l.lengths name = ∅) : l.matchLength name = 0 := by
  have hnone : l.extensions.filter (hasExtension name) = [] := by
    refine List.filter_eq_nil_iff.2 fun e he hends => ?_
    exact Set.eq_empty_iff_forall_notMem.1 h _ ⟨e, he, hasExtension_iff.1 hends, rfl⟩
  rw [matchLength_eq, hnone]
  rfl

/-- A language fits a file whose name ends with one of its extensions. -/
theorem fits_iff : l.fits name = true ↔ (l.lengths name).Nonempty := by
  rw [fits, decide_eq_true_iff]
  constructor
  · intro hpos
    rw [Set.nonempty_iff_ne_empty]
    intro hempty
    rw [matchLength_eq_zero hempty] at hpos
    exact Nat.lt_irrefl 0 hpos
  · rintro ⟨n, hn⟩
    obtain ⟨⟨e, he, -, hlen⟩, -⟩ := isGreatest_matchLength hn
    rw [← hlen, List.length_pos_iff]
    exact fun hnil => l.nil_notMem (hnil ▸ he)

end Language

namespace LanguageTable

variable {t : LanguageTable} {l : Language} {ls : List Language} {name : Text}

theorem assigns_setLanguage : Assigns Language.name setLanguage :=
  ⟨fun _ => rfl, fun _ _ _ => rfl⟩

theorem languages_registerAll (t : LanguageTable) (ls : List Language) :
    (t.registerAll ls).languages = ls.foldl (fun ms l => setLanguage l ms) t.languages := by
  unfold registerAll
  induction ls generalizing t with
  | nil => rfl
  | cons l ls ih => rw [List.foldl_cons, ih, List.foldl_cons, register]

theorem languages_run (ls : List Language) :
    (empty.registerAll ls).languages = ls.foldl (fun ms l => setLanguage l ms) [] :=
  languages_registerAll empty ls

/-- The language of a file: its longest extension at the end of the file name is as long as that of
any other language, and longer than that of any language before it. -/
def Decides (t : LanguageTable) (name : Text) (l : Language) : Prop :=
  ∃ before after n, t.languages = before ++ l :: after ∧ IsGreatest (l.lengths name) n ∧
    (∀ m ∈ before, ∀ k ∈ m.lengths name, k < n) ∧ ∀ m ∈ after, ∀ k ∈ m.lengths name, k ≤ n

theorem lookup?_eq_some_iff : t.lookup? name = some l ↔ t.Decides name l := by
  rw [lookup?, firstLargest?_filter_eq_some_iff]
  constructor
  · rintro ⟨hfits, before, after, hlanguages, hbefore, hafter⟩
    obtain ⟨n, hn⟩ := Language.fits_iff.1 hfits
    refine ⟨before, after, _, hlanguages, Language.isGreatest_matchLength hn,
      fun m hm k hk => ?_, fun m hm k hk => ?_⟩
    · have hmatch := hbefore m hm (Language.fits_iff.2 ⟨k, hk⟩)
      exact Nat.lt_of_le_of_lt ((Language.isGreatest_matchLength hk).2 hk) hmatch
    · have hmatch := hafter m hm (Language.fits_iff.2 ⟨k, hk⟩)
      exact ((Language.isGreatest_matchLength hk).2 hk).trans hmatch
  · rintro ⟨before, after, n, hlanguages, hn, hbefore, hafter⟩
    obtain rfl : n = l.matchLength name := hn.unique (Language.isGreatest_matchLength hn.1)
    refine ⟨Language.fits_iff.2 ⟨_, hn.1⟩, before, after, hlanguages,
      fun m hm hfits => ?_, fun m hm hfits => ?_⟩
    · obtain ⟨k, hk⟩ := Language.fits_iff.1 hfits
      exact hbefore m hm _ (Language.isGreatest_matchLength hk).1
    · obtain ⟨k, hk⟩ := Language.fits_iff.1 hfits
      exact hafter m hm _ (Language.isGreatest_matchLength hk).1

theorem lookup?_eq_none_iff :
    t.lookup? name = none ↔ ∀ l ∈ t.languages, ∀ ext ∈ l.extensions, ¬ EndsWith name ext := by
  rw [lookup?, firstLargest?_eq_none_iff, List.filter_eq_nil_iff]
  refine forall₂_congr fun l hl => ?_
  rw [Language.fits_iff]
  exact ⟨fun h ext hext hends => h ⟨_, ext, hext, hends, rfl⟩,
    fun h ⟨_, ext, hext, hends, _⟩ => h ext hext hends⟩

end LanguageTable

/-! ## Definition sets -/

namespace DefinitionSet

variable {s : DefinitionSet} {name ext : Text} {d : Definition}

theorem find?_eq_some_iff : s.find? name = some d ↔
    FirstLargest (fun d => EndsWith name d.extension) (·.extension.length) s.entries d := by
  rw [find?, firstLargest?_filter_eq_some_iff]
  simp only [hasExtension_iff]

theorem matchExtension?_eq_some_iff : s.matchExtension? name = some ext ↔
    FirstLargest (EndsWith name) List.length s.extensions ext := by
  rw [matchExtension?, Option.map_eq_some_iff]
  constructor
  · rintro ⟨d, hd, rfl⟩
    obtain ⟨hends, before, after, hentries, hbefore, hafter⟩ := find?_eq_some_iff.1 hd
    refine ⟨hends, before.map (·.extension), after.map (·.extension), ?_, ?_, ?_⟩
    · rw [extensions, hentries, List.map_append, List.map_cons]
    · exact List.forall_mem_map.2 hbefore
    · exact List.forall_mem_map.2 hafter
  · rintro ⟨hends, before, after, hextensions, hbefore, hafter⟩
    obtain ⟨ds, ds', hentries, rfl, hrest⟩ := List.map_eq_append_iff.1 hextensions
    obtain ⟨d, es, rfl, rfl, rfl⟩ := List.map_eq_cons_iff.1 hrest
    refine ⟨d, find?_eq_some_iff.2 ⟨hends, ds, es, hentries, ?_, ?_⟩, rfl⟩
    · exact List.forall_mem_map.1 hbefore
    · exact List.forall_mem_map.1 hafter

theorem matchExtension?_eq_none_iff :
    s.matchExtension? name = none ↔ ∀ ext ∈ s.extensions, ¬ EndsWith name ext := by
  rw [matchExtension?, Option.map_eq_none_iff, find?, firstLargest?_eq_none_iff,
    List.filter_eq_nil_iff, extensions, List.forall_mem_map]
  simp only [hasExtension_iff]

/-- The template for a file name is the one that is stored for the extension. -/
theorem lookup?_eq (s : DefinitionSet) (name : Text) :
    s.lookup? name = (s.matchExtension? name).bind s.template? := by
  rw [lookup?, matchExtension?]
  cases hd : s.find? name with
  | none => rfl
  | some d =>
    obtain ⟨hends, before, after, hentries, hbefore, -⟩ := find?_eq_some_iff.1 hd
    -- No entry before the one that is found has its extension.
    have hnone : before.find? (fun e => e.extension == d.extension) = none := by
      refine List.find?_eq_none.2 fun e he heq => ?_
      have hsame : e.extension = d.extension := beq_iff_eq.1 heq
      have hends' : EndsWith name e.extension := hsame ▸ hends
      exact Nat.ne_of_lt (hbefore e he hends') (congrArg List.length hsame)
    have hfirst : s.entries.find? (fun e => e.extension == d.extension) = some d := by
      rw [hentries, List.find?_append, hnone, Option.none_or]
      exact List.find?_cons_of_pos (beq_self_eq_true d.extension)
    rw [Option.map_some, Option.map_some, Option.bind_some, template?, hfirst, Option.map_some]

theorem ne_matchExtension? {shorter : Text} (hext : ext ∈ s.extensions) (hends : EndsWith name ext)
    (hlt : shorter.length < ext.length) : s.matchExtension? name ≠ some shorter := by
  intro h
  have hle := (matchExtension?_eq_some_iff.1 h).size_le hext hends
  exact Nat.not_le_of_lt hlt hle

end DefinitionSet

/-- Registration keeps one language under each name, the last one, where the name first came. Among
languages as among definitions the longest extension decides about a file name, and of equally long
ones the first; no extension decides over a longer one, whatever template that one has. -/
theorem longest_extension_decides (ls : List Language) (s : DefinitionSet) (name : Text) :
    (((LanguageTable.empty.registerAll ls).languages.map (·.name) =
          (ls.map (·.name)).eraseDups ∧
        ∀ n, (LanguageTable.empty.registerAll ls).find? n =
          (ls.filter fun l => l.name == n).getLast?) ∧
      (∀ l, (LanguageTable.empty.registerAll ls).lookup? name = some l ↔
        (LanguageTable.empty.registerAll ls).Decides name l) ∧
      ((LanguageTable.empty.registerAll ls).lookup? name = none ↔
        ∀ l ∈ (LanguageTable.empty.registerAll ls).languages,
          ∀ ext ∈ l.extensions, ¬ EndsWith name ext)) ∧
    ((∀ ext, s.matchExtension? name = some ext ↔
        FirstLargest (EndsWith name) List.length s.extensions ext) ∧
      (s.matchExtension? name = none ↔ ∀ ext ∈ s.extensions, ¬ EndsWith name ext) ∧
      s.lookup? name = (s.matchExtension? name).bind s.template? ∧
      ∀ ext ∈ s.extensions, EndsWith name ext → ∀ shorter : Text,
        shorter.length < ext.length → s.matchExtension? name ≠ some shorter) := by
  refine ⟨⟨⟨?_, fun n => ?_⟩, fun l => LanguageTable.lookup?_eq_some_iff,
    LanguageTable.lookup?_eq_none_iff⟩, fun ext => DefinitionSet.matchExtension?_eq_some_iff,
    DefinitionSet.matchExtension?_eq_none_iff, s.lookup?_eq name,
    fun ext hext hends shorter hlt => DefinitionSet.ne_matchExtension? hext hends hlt⟩
  · rw [LanguageTable.languages_run, LanguageTable.assigns_setLanguage.keys_run]
  · rw [LanguageTable.find?, LanguageTable.languages_run,
      LanguageTable.assigns_setLanguage.find?_run]

/-- A language for generated C# sources. -/
def Language.designer : Language where
  name := "designer".toList
  extensions := [".Designer.cs".toList]
  style := BuiltIn.csharp.style
  name_ne := by decide
  extensions_ne := by decide
  nil_notMem := by decide

/-- A template for C# sources, and a blank one for generated ones. -/
def designerDefinitions : DefinitionSet where
  entries := [⟨".cs".toList, ["// License: MIT".toList], 0⟩, ⟨".designer.cs".toList, [], 1⟩]

theorem longest_extension_decides_designer :
    (LanguageTable.empty.registerAll [Language.BuiltIn.csharp, Language.designer]).lookup?
        "Form.designer.CS".toList = some Language.designer ∧
      designerDefinitions.lookup? "Form.designer.CS".toList = some [] := by
  obtain ⟨⟨-, hlanguage, -⟩, hextension, -, htemplate, -⟩ :=
    longest_extension_decides _ designerDefinitions "Form.designer.CS".toList
  have hlist : (LanguageTable.empty.registerAll
      [Language.BuiltIn.csharp, Language.designer]).languages =
        [Language.BuiltIn.csharp] ++ Language.designer :: [] := by
    have hname : Language.BuiltIn.csharp.name ≠ Language.designer.name := by decide
    rw [LanguageTable.languages_run, List.foldl_cons, List.foldl_cons, List.foldl_nil,
      LanguageTable.setLanguage, LanguageTable.setLanguage, if_neg hname,
      LanguageTable.setLanguage, List.singleton_append]
  refine ⟨(hlanguage _).2 ⟨[Language.BuiltIn.csharp], [], 12, hlist, ?_, ?_, ?_⟩, ?_⟩
  · refine ⟨⟨".Designer.cs".toList, List.mem_singleton.2 rfl, by decide, by decide⟩, ?_⟩
    rintro k ⟨e, he, -, rfl⟩
    obtain rfl := List.mem_singleton.1 he
    decide
  · rintro m hm k ⟨e, he, -, rfl⟩
    obtain rfl := List.mem_singleton.1 hm
    obtain rfl := List.mem_singleton.1 he
    decide
  · simp
  · rw [htemplate, (hextension ".designer.cs".toList).2
      ⟨by decide, [".cs".toList], [], rfl, by decide, by decide⟩]
    rfl

end Letterhead

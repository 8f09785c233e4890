import Letterhead.Proofs.Config.Reading
import Letterhead.Proofs.Text.Trimmed

/-
  Configurations as tables. The table of a configuration is always one that can be read, and gives
  a draft that sets everything (`ofTable_toTable`). Laid over the defaults and frozen, that draft
  gives the configuration back if and only if there is nothing left to freeze in it, since its
  keywords are trimmed and no text in it is empty (`reload_eq_iff`). Freezing leaves nothing to
  freeze, whatever the draft (`settled_freeze`), so every configuration that comes of layers and a
  command line is the one that its table describes (`freeze_reloads`).
-/

namespace Letterhead

namespace Config

variable (c : Config)

/-- The draft that sets everything as a configuration has it. -/
def toDraft : Draft where
  useKeywords := some c.useKeywords
  keywords := some c.keywords
  encoding := some (c.encoding.getD [])
  projectName := some (c.projectName.getD [])
  excludePatterns := c.excludePatterns
  languages := c.languages

theorem ofTable_toTable : Draft.ofTable c.toTable = .ok c.toDraft := by
  have hwords := Datum.texts?_list c.keywords
  have hpatterns := Datum.texts?_list c.excludePatterns
  have hlanguages := Datum.tables?_list c.languages
  refine Draft.ofTable_eq (Table.table_eq (o := some _) rfl) (Table.table_eq (o := some _) rfl)
    (Table.table_eq (o := some _) rfl) (Table.flag?_eq (o := some c.useKeywords) rfl)
    (Table.texts?_eq (o := some c.keywords) ?_)
    (Table.phrase?_eq (o := some (c.encoding.getD [])) rfl)
    (Table.phrase?_eq (o := some (c.projectName.getD [])) rfl)
    (Table.texts?_eq (o := some c.excludePatterns) ?_)
    (Table.tables_eq (o := some c.languages) ?_)
  · exact congrArg some hwords
  · exact congrArg some hpatterns
  · exact congrArg some hlanguages

/-- A draft that sets everything lets nothing of the defaults through. -/
theorem defaults_merge_toDraft : Draft.defaults.merge c.toDraft = c.toDraft := by
  by_cases h : c.excludePatterns = []
  · simp [Draft.merge, Draft.defaults, toDraft, h]
  · simp [Draft.merge, Draft.defaults, toDraft, h]

/-! ## Nothing left to freeze -/

/-- A configuration that freezing leaves alone: its keywords are trimmed and not empty, and an
empty text stands for no encoding and no project name. -/
structure Settled : Prop where
  keywords : ∀ k ∈ c.keywords, Text.trim k = k ∧ k ≠ []
  encoding : c.encoding ≠ some []
  projectName : c.projectName ≠ some []

theorem filter_getD_eq_iff {s : Option Text} :
    (some (s.getD [])).filter (· ≠ []) = s ↔ s ≠ some [] := by
  cases s with
  | none => simp
  | some s => by_cases hs : s = [] <;> simp [hs]

theorem freeze_toDraft_eq_iff : c.toDraft.freeze = { c with sources := [] } ↔ c.Settled := by
  have hkeywords : c.toDraft.freeze.keywords = Text.trimmedEntries c.keywords := rfl
  have hencoding : c.toDraft.freeze.encoding = (some (c.encoding.getD [])).filter (· ≠ []) := rfl
  have hprojectName :
      c.toDraft.freeze.projectName = (some (c.projectName.getD [])).filter (· ≠ []) := rfl
  constructor
  · intro h
    rw [h] at hkeywords hencoding hprojectName
    exact ⟨Text.trimmedEntries_eq_self_iff.1 hkeywords.symm, filter_getD_eq_iff.1 hencoding.symm,
      filter_getD_eq_iff.1 hprojectName.symm⟩
  · intro h
    rw [Text.trimmedEntries_eq_self_iff.2 h.keywords] at hkeywords
    rw [filter_getD_eq_iff.2 h.encoding] at hencoding
    rw [filter_getD_eq_iff.2 h.projectName] at hprojectName
    calc c.toDraft.freeze
        = { c with
            sources := []
            keywords := c.toDraft.freeze.keywords
            encoding := c.toDraft.freeze.encoding
            projectName := c.toDraft.freeze.projectName } := rfl
      _ = { c with sources := [] } := by rw [hkeywords, hencoding, hprojectName]

/-- What the table of a configuration gives over the defaults. -/
def reload : Except FieldError Config := do
  return (Draft.defaults.merge (← Draft.ofTable c.toTable)).freeze

/-- A configuration comes back from its table, but for its sources, exactly when there is nothing
left to freeze in it. -/
theorem reload_eq_iff : c.reload = .ok { c with sources := [] } ↔ c.Settled := by
  have hreload : c.reload = .ok c.toDraft.freeze := by
    rw [reload, ofTable_toTable]
    exact congrArg (fun d : Draft => Except.ok d.freeze) c.defaults_merge_toDraft
  rw [hreload, Except.ok.injEq, freeze_toDraft_eq_iff]

end Config

namespace Draft

theorem settled_freeze (d : Draft) : d.freeze.Settled where
  keywords k hk :=
    have hk' : k ∈ Text.trimmedEntries (d.keywords.getD []) := hk
    Text.of_mem_trimmedEntries hk'
  encoding h := by simp [freeze, Option.filter_eq_some_iff] at h
  projectName h := by simp [freeze, Option.filter_eq_some_iff] at h

/-- A configuration that was frozen from a draft, whatever layers were merged into the draft and
whatever a command line set on top, is the one that its table describes: the table can be read, and
over the defaults it gives the same configuration, which has no sources of its own. -/
theorem freeze_reloads (d : Draft) :
    ∃ c, d.freeze.reload = .ok c ∧ c = { d.freeze with sources := [] } ∧
      c.effectiveKeywords = d.freeze.effectiveKeywords :=
  ⟨_, d.freeze.reload_eq_iff.2 d.settled_freeze, rfl, rfl⟩

end Draft
end Letterhead

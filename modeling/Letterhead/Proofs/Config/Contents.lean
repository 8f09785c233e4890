import Letterhead.Config.File
import Letterhead.Proofs.Text.Utf8
import Mathlib.Tactic.ByContra

/-
  What the bytes of a settings file say. They are read as text, the text as a document, and the
  settings are the whole table of it or, in a project file, one section. What a text says as a
  document is up to a reader, which may be any. The outcome is told by three questions about the
  bytes: whether they are text, whether the text is a document, and whether the tools of a project
  file are in a table. Where the first or the last one is answered with no, the error is one that
  nothing accounts for (`exists_fault_of_not_legible`).
-/

namespace Letterhead

open Letterhead.Tree

variable {parse : Toml.Reader} {d : Disk} {p : Path} {bytes : Bytes}

/-! ## The settings in a file -/

/-- The table that bytes give, if they are text and the text is a document. -/
def tableOf? (parse : Toml.Reader) (bytes : Bytes) : Option Table :=
  (textOf? bytes).bind fun s => (parse s).toOption

/-- The section with settings in the table of a project file. -/
def section? (t : Table) : Option Table :=
  ((t.lookup toolKey).bind Datum.table?).bind fun tools => (tools.lookup toolName).bind Datum.table?

/-- The settings in the table of a file of some name: those of its section for a project file, else
the whole table. -/
def settingsOf? (name : Text) (t : Table) : Option Table :=
  if name = projectFileName then section? t else some t

/-- The settings that the bytes of a file of some name give. -/
def settingsIn? (parse : Toml.Reader) (name : Text) (bytes : Bytes) : Option Table :=
  (tableOf? parse bytes).bind (settingsOf? name)

/-- Bytes that are text in UTF-8, of which the reader gives a table or says that it is not
well-formed. -/
def IsText (parse : Toml.Reader) (bytes : Bytes) : Prop :=
  ∃ s, textOf? bytes = some s ∧ ∀ cause, parse s ≠ .error (.layout cause)

/-- A reader that has no other complaint than that a text is not well-formed leaves nothing but
UTF-8 to ask for. -/
theorem isText_iff_wellFormed (hparse : ∀ s cause, parse s ≠ .error (.layout cause)) :
    IsText parse bytes ↔ Utf8.WellFormed bytes := by
  rw [Utf8.wellFormed_iff]
  constructor
  · rintro ⟨_, hs, -⟩
    obtain ⟨s, hs, -⟩ := Option.map_eq_some_iff.1 hs
    exact ⟨s, Utf8.decode?_eq_some_iff.1 hs⟩
  · rintro ⟨s, hs⟩
    exact ⟨_, Option.map_eq_some_iff.2 ⟨s, Utf8.decode?_eq_some_iff.2 hs, rfl⟩, hparse _⟩

/-- Bytes that can be told to hold settings or not: they are text, and what a project file says of
tools is in a table. -/
structure Legible (parse : Toml.Reader) (name : Text) (bytes : Bytes) : Prop where
  isText : IsText parse bytes
  tools : name = projectFileName →
    ∀ t v, tableOf? parse bytes = some t → t.lookup toolKey = some v → v.table?.isSome

/-- Whether bytes are legible. -/
def isLegible (parse : Toml.Reader) (name : Text) (bytes : Bytes) : Bool :=
  (textOf? bytes).any fun s =>
    match parse s with
    | .ok t => name != projectFileName || (t.lookup toolKey).all (·.table?.isSome)
    | .error .malformed => true
    | .error (.layout _) => false

theorem isLegible_iff {name : Text} :
    isLegible parse name bytes = true ↔ Legible parse name bytes := by
  rw [isLegible, Option.any_eq_true]
  constructor
  · rintro ⟨s, hs, hdoc⟩
    refine ⟨⟨s, hs, fun cause hcause => ?_⟩, fun hname t v ht hv => ?_⟩
    · rw [hcause] at hdoc
      cases hdoc
    · rw [tableOf?, hs, Option.bind_some] at ht
      cases hread : parse s with
      | error e => rw [hread] at ht; cases ht
      | ok t' =>
        rw [hread] at ht hdoc
        obtain rfl : t' = t := Option.some.inj ht
        simpa [hname, hv] using hdoc
  · rintro ⟨⟨s, hs, hlayout⟩, htools⟩
    refine ⟨s, hs, ?_⟩
    rw [tableOf?, hs, Option.bind_some] at htools
    cases hread : parse s with
    | ok t =>
      rw [hread] at htools
      by_cases hname : name = projectFileName
      · cases hv : t.lookup toolKey with
        | none => simp [hv]
        | some v => simpa [hname, hv] using htools hname t v rfl hv
      · simp [hname]
    | error e =>
      cases e with
      | malformed => rfl
      | layout cause => exact absurd hread (hlayout cause)

instance (parse : Toml.Reader) (name : Text) (bytes : Bytes) :
    Decidable (Legible parse name bytes) :=
  decidable_of_iff _ isLegible_iff

/-! ## Reading it -/

section Reading

variable {t : Table} (hread : d.read p = .ok bytes)

include hread in
/-- Text that is read gives its table, or is malformed, unless its tables cannot be laid out. -/
theorem loadTable_of_text (h : IsText parse bytes) :
    tableOf? parse bytes = none ∧ loadTable d p parse = .error (.malformed p) ∨
      ∃ t, tableOf? parse bytes = some t ∧ loadTable d p parse = .ok t := by
  obtain ⟨s, hs, hlayout⟩ := h
  have htable : tableOf? parse bytes = (parse s).toOption := by rw [tableOf?, hs]; rfl
  rw [htable, loadTable, hread]
  simp only [hs]
  cases hdoc : parse s with
  | ok t => exact Or.inr ⟨t, rfl, rfl⟩
  | error e =>
    cases e with
    | malformed => exact Or.inl ⟨rfl, rfl⟩
    | layout cause => exact absurd hdoc (hlayout cause)

include hread in
theorem loadTable_of_not_text (h : ¬ IsText parse bytes) :
    ∃ e, loadTable d p parse = .error e ∧ e.isFault = true := by
  rw [loadTable, hread]
  cases hs : textOf? bytes with
  | none =>
    refine ⟨.undecodable p, ?_, rfl⟩
    simp only [hs]
  | some s =>
    simp only [hs]
    cases hdoc : parse s with
    | ok t => exact absurd ⟨s, hs, fun cause hcause => by simp [hdoc] at hcause⟩ h
    | error e =>
      cases e with
      | malformed => exact absurd ⟨s, hs, fun cause hcause => by simp [hdoc] at hcause⟩ h
      | layout cause => exact ⟨.layout cause, rfl, rfl⟩

/-- The section with settings is found where the tools are in a table. -/
theorem toolSection?_eq (h : ∀ v, t.lookup toolKey = some v → v.table?.isSome) :
    toolSection? t = .ok (section? t) := by
  rw [toolSection?, section?]
  cases hv : t.lookup toolKey with
  | none => rfl
  | some v =>
    obtain ⟨tools, htools⟩ := Option.isSome_iff_exists.1 (h v hv)
    cases v with
    | table tools' => rfl
    | _ => cases htools

theorem toolSection?_of_no_table {v : Datum} (hv : t.lookup toolKey = some v)
    (h : v.table? = none) : toolSection? t = .error (.noToolTable v) := by
  rw [toolSection?, hv]
  cases v with
  | table tools => cases h
  | _ => rfl

theorem settings?_eq (h : p.name = projectFileName → ∀ v, t.lookup toolKey = some v →
    v.table?.isSome) : settings? p t = .ok (settingsOf? p.name t) := by
  rw [settings?, settingsOf?]
  by_cases hname : p.name = projectFileName
  · rw [if_pos hname, if_pos hname, toolSection?_eq (h hname)]
  · rw [if_neg hname, if_neg hname]

end Reading

/-- Bytes that are not legible are not read to the end. -/
theorem exists_fault_of_not_legible (hread : d.read p = .ok bytes)
    (h : ¬ Legible parse p.name bytes) :
    (∃ e, loadTable d p parse = .error e ∧ e.isFault = true) ∨
      ∃ t v, loadTable d p parse = .ok t ∧ settings? p t = .error (.noToolTable v) := by
  by_cases htext : IsText parse bytes
  · have htools : ∃ t v, p.name = projectFileName ∧ tableOf? parse bytes = some t ∧
        t.lookup toolKey = some v ∧ v.table? = none := by
      by_contra hno
      refine h ⟨htext, fun hname t v ht hv => ?_⟩
      cases hv' : v.table? with
      | none => exact absurd ⟨t, v, hname, ht, hv, hv'⟩ hno
      | some tools => rfl
    obtain ⟨t, v, hname, ht, hv, hnone⟩ := htools
    rcases loadTable_of_text hread htext with ⟨hnot, -⟩ | ⟨t', ht', hload⟩
    · rw [ht] at hnot
      cases hnot
    · obtain rfl : t = t' := Option.some.inj (ht.symm.trans ht')
      refine Or.inr ⟨t, v, hload, ?_⟩
      rw [settings?, if_pos hname, toolSection?_of_no_table hv hnone]
  · exact Or.inl (loadTable_of_not_text hread htext)

end Letterhead

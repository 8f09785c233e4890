import Letterhead.Proofs.Config.Reading
import Letterhead.Proofs.Text.Trimmed

/-
  Layers of settings. Each layer is a table, the outermost first, and the draft of the layers is
  their drafts merged onto the defaults. A field that merging takes from the upper draft wherever
  that one sets it is, after all merges, that of the last draft that sets it (`foldl_merge`). So
  the innermost layer with a value for a setting decides (`nearest_layer_decides`), be the value
  false, an empty list or an empty text. The patterns of excluded paths are the exception: an empty
  list of them is taken for none, and gives way to the list of a layer further out.
-/

namespace Letterhead

/-! ## Settings -/

/-- A setting: a key of a section. -/
structure Setting where
  sectionName : Text
  key : Text

namespace Setting

def useKeywords : Setting := ⟨"keywords".toList, "use_required_keywords".toList⟩
def keywords : Setting := ⟨"keywords".toList, "required_keywords".toList⟩
def encoding : Setting := ⟨"definitions".toList, "encoding".toList⟩
def projectName : Setting := ⟨"definitions".toList, "project_name".toList⟩
def excludePatterns : Setting := ⟨"files".toList, "exclude_patterns".toList⟩

variable (x : Setting)

/-- The value of a setting in a table. -/
def value? (t : Table) : Option Datum :=
  Table.value? (((t.value? x.sectionName).bind Datum.table?).getD []) x.key

/-- The value of a setting in the innermost of the layers that have one. -/
def nearest? (ts : List Table) : Option Datum := (ts.filterMap x.value?).getLast?

/-- The value of a setting in the innermost of the layers that have one that counts as true. -/
def nearestTruthy? (ts : List Table) : Option Datum :=
  (ts.filterMap fun t => (x.value? t).filter Datum.isTruthy).getLast?

end Setting

/-- A table whose settings, as far as it has any, are of the kinds that settings are of. -/
structure Table.WellKinded (t : Table) : Prop where
  sections : ∀ name ∈ ["keywords", "definitions", "files"],
    (t.value? name.toList).all (·.table?.isSome)
  useKeywords : (Setting.useKeywords.value? t).all (·.flag?.isSome)
  keywords : (Setting.keywords.value? t).all (·.texts?.isSome)
  encoding : (Setting.encoding.value? t).all (·.phrase?.isSome)
  projectName : (Setting.projectName.value? t).all (·.phrase?.isSome)
  excludePatterns : (Setting.excludePatterns.value? t).all (·.texts?.isSome)
  languages : (t.value? "languages".toList).all (·.tables?.isSome)

theorem map_eq_of_all_isSome {α β : Type} {o : Option α} {f : α → Option β}
    (h : o.all (fun a => (f a).isSome) = true) : o.map f = (o.bind f).map some := by
  cases o with
  | none => rfl
  | some a =>
    obtain ⟨b, hb⟩ := Option.isSome_iff_exists.1 (show (f a).isSome = true from h)
    simp [hb]

/-- The table of a configuration has every setting, each of its kind. -/
theorem Config.wellKinded_toTable (c : Config) : c.toTable.WellKinded where
  sections name hname := by
    simp only [List.mem_cons, List.not_mem_nil, or_false] at hname
    rcases hname with rfl | rfl | rfl <;> rfl
  useKeywords := rfl
  keywords := congrArg Option.isSome (Datum.texts?_list c.keywords)
  encoding := rfl
  projectName := rfl
  excludePatterns := congrArg Option.isSome (Datum.texts?_list c.excludePatterns)
  languages := congrArg Option.isSome (Datum.tables?_list c.languages)

theorem all_filter_of_all {α : Type} {o : Option α} {p q : α → Bool} (h : o.all q = true) :
    (o.filter p).all q = true := by
  rw [Option.all_eq_true] at h ⊢
  exact fun a ha => h a (Option.eq_some_of_filter_eq_some ha)

theorem filter_or_some_nil (o : Option Text) :
    (o.or (some [])).filter (· ≠ []) = o.filter (· ≠ []) := by
  cases o <;> rfl

namespace Draft

/-- The draft of a table, read field by field. -/
def ofSettings (t : Table) : Draft where
  useKeywords := (Setting.useKeywords.value? t).bind Datum.flag?
  keywords := (Setting.keywords.value? t).bind Datum.texts?
  encoding := (Setting.encoding.value? t).bind Datum.phrase?
  projectName := (Setting.projectName.value? t).bind Datum.phrase?
  excludePatterns := ((Setting.excludePatterns.value? t).bind Datum.texts?).getD []
  languages := ((t.value? "languages".toList).bind Datum.tables?).getD []

theorem ofTable_of_wellKinded {t : Table} (h : t.WellKinded) :
    ofTable t = .ok (ofSettings t) :=
  ofTable_eq
    (Table.table_eq (map_eq_of_all_isSome (h.sections _ (by simp))))
    (Table.table_eq (map_eq_of_all_isSome (h.sections _ (by simp))))
    (Table.table_eq (map_eq_of_all_isSome (h.sections _ (by simp))))
    (Table.flag?_eq (map_eq_of_all_isSome h.useKeywords))
    (Table.texts?_eq (map_eq_of_all_isSome h.keywords))
    (Table.phrase?_eq (map_eq_of_all_isSome h.encoding))
    (Table.phrase?_eq (map_eq_of_all_isSome h.projectName))
    (Table.texts?_eq (map_eq_of_all_isSome h.excludePatterns))
    (Table.tables_eq (map_eq_of_all_isSome h.languages))

/-! ## Merging -/

/-- A field that merging takes from the upper draft wherever that one sets it is that of the last
draft that sets it. -/
theorem foldl_merge {α : Type} {field? : Draft → Option α}
    (h : ∀ lower upper, field? (lower.merge upper) = (field? upper).or (field? lower))
    (ds : List Draft) (d : Draft) :
    field? (ds.foldl merge d) = ((ds.filterMap field?).getLast?).or (field? d) := by
  induction ds generalizing d with
  | nil => simp
  | cons e ds ih =>
    rw [List.foldl_cons, ih, h, ← Option.or_assoc]
    cases he : field? e with
    | none => rw [List.filterMap_cons_none he, Option.or_none]
    | some a => rw [List.filterMap_cons_some he, List.getLast?_cons, Option.or_some]

/-- The patterns of a draft, if it has any. -/
def patterns? (d : Draft) : Option (List Text) := (some d.excludePatterns).filter (· ≠ [])

theorem excludePatterns_eq (d : Draft) : d.excludePatterns = d.patterns?.getD [] := by
  by_cases h : d.excludePatterns = [] <;> simp [patterns?, Option.filter, h]

theorem patterns?_merge (lower upper : Draft) :
    (lower.merge upper).patterns? = upper.patterns?.or lower.patterns? := by
  by_cases h : upper.excludePatterns = [] <;> simp [patterns?, merge, Option.filter, h]

/-- The draft of layers over the defaults. -/
def ofLayers (ts : List Table) : Except FieldError Draft :=
  ts.foldlM (fun d t => return d.merge (← ofTable t)) defaults

theorem ofLayers_eq {ts : List Table} (h : ∀ t ∈ ts, t.WellKinded) :
    ofLayers ts = .ok ((ts.map ofSettings).foldl merge defaults) := by
  unfold ofLayers
  generalize defaults = d
  induction ts generalizing d with
  | nil => rfl
  | cons t ts ih =>
    rw [List.foldlM_cons, ofTable_of_wellKinded (h t List.mem_cons_self)]
    exact ih (fun t' ht' => h t' (List.mem_cons_of_mem t ht')) (d.merge (ofSettings t))

end Draft

/-! ## The innermost layer with a value -/

/-- The last of the values, seen as a value of a kind, is the last of the values seen so. -/
theorem getLast?_filterMap_bind {α : Type} {value? : Table → Option Datum}
    {kind? : Datum → Option α} {ts : List Table}
    (h : ∀ t ∈ ts, (value? t).all (fun d => (kind? d).isSome) = true) :
    (ts.filterMap value?).getLast?.bind kind? =
      (ts.filterMap fun t => (value? t).bind kind?).getLast? := by
  induction ts using List.reverseRecOn with
  | nil => rfl
  | append_singleton ts t ih =>
    have ht := map_eq_of_all_isSome (h t (by simp))
    rw [List.filterMap_append, List.filterMap_append, List.getLast?_append, List.getLast?_append]
    cases hv : value? t with
    | none =>
      rw [List.filterMap_cons_none hv, List.filterMap_cons_none (by rw [hv]; rfl)]
      exact ih fun t' ht' => h t' (List.mem_append_left _ ht')
    | some d =>
      rw [hv] at ht
      obtain ⟨a, ha, hd⟩ := Option.map_eq_some_iff.1 ht.symm
      rw [List.filterMap_cons_some hv, List.filterMap_cons_some (b := a) (by rw [hv]; exact ha)]
      exact hd.symm

/-! ## Lists of texts -/

namespace Datum

theorem isTruthy_iff_of_texts? {v : Datum} {ss : List Text} (h : v.texts? = some ss) :
    v.isTruthy = true ↔ ss ≠ [] := by
  match v, h with
  | list [], h => simp_all [texts?, isTruthy]
  | list (d :: ds), h =>
    rw [texts?, List.mapM_cons] at h
    have hss : ss ≠ [] := by
      rintro rfl
      simp [Option.bind_eq_some_iff] at h
    simp [isTruthy, hss]

theorem eq_nil_iff_not_isTruthy {v : Datum} (h : v.texts?.isSome) :
    v = list [] ↔ ¬v.isTruthy = true := by
  match v, h with
  | list ds, _ => simp [isTruthy]

/-- A list of texts that is empty is taken for none. -/
theorem filter_texts? (o : Option Datum) :
    (some ((o.bind texts?).getD [])).filter (· ≠ []) = (o.filter isTruthy).bind texts? := by
  cases o with
  | none => rfl
  | some v =>
    cases hv : v.texts? with
    | none => by_cases ht : v.isTruthy = true <;> simp [Option.filter, hv, ht]
    | some ss =>
      have ht := isTruthy_iff_of_texts? hv
      by_cases hss : ss = [] <;> simp_all [Option.filter]

theorem getLast?_truthy_eq_nil_iff {vs : List Datum} (h : ∀ v ∈ vs, v.texts?.isSome) :
    ((vs.filter isTruthy).getLast?.bind texts?).getD [] = [] ↔ ∀ v ∈ vs, v = list [] := by
  cases hlast : (vs.filter isTruthy).getLast? with
  | none =>
    rw [List.getLast?_eq_none_iff, List.filter_eq_nil_iff] at hlast
    simpa using fun v hv => (eq_nil_iff_not_isTruthy (h v hv)).2 (hlast v hv)
  | some v =>
    obtain ⟨hmem, htruthy⟩ := List.mem_filter.1 (List.mem_of_getLast? hlast)
    obtain ⟨ss, hss⟩ := Option.isSome_iff_exists.1 (h v hmem)
    have hne : ss ≠ [] := (isTruthy_iff_of_texts? hss).1 htruthy
    rw [Option.bind_some, hss, Option.getD_some]
    exact ⟨fun hnil => absurd hnil hne,
      fun hall => absurd htruthy ((eq_nil_iff_not_isTruthy (h v hmem)).1 (hall v hmem))⟩

/-- The last of some lists of texts and the last that is not empty agree exactly when the last one
is not empty or all of them are. -/
theorem getLast?_truthy_eq_iff {vs : List Datum} (h : ∀ v ∈ vs, v.texts?.isSome) :
    ((vs.filter isTruthy).getLast?.bind texts?).getD [] = (vs.getLast?.bind texts?).getD [] ↔
      (vs.getLast? = some (list []) → ∀ v ∈ vs, v = list []) := by
  cases hlast : vs.getLast? with
  | none =>
    rw [List.getLast?_eq_none_iff] at hlast
    simp [hlast]
  | some v =>
    by_cases hv : v = list []
    · subst hv
      rw [← getLast?_truthy_eq_nil_iff h]
      have htexts : ((some (list [])).bind texts?).getD [] = [] := rfl
      rw [htexts, forall_prop_of_true rfl]
    · have htruthy : v.isTruthy = true := by
        simpa using mt (eq_nil_iff_not_isTruthy (h v (List.mem_of_getLast? hlast))).2 hv
      obtain ⟨init, rfl⟩ := List.getLast?_eq_some_iff.1 hlast
      simp [htruthy, hv]

end Datum

/-- The innermost list of texts and the innermost that is not empty agree exactly when the innermost
one is not empty or all of them are. -/
theorem Setting.nearestTruthy?_texts_eq_iff (x : Setting) {ts : List Table}
    (h : ∀ t ∈ ts, (x.value? t).all (·.texts?.isSome)) :
    ((x.nearestTruthy? ts).bind Datum.texts?).getD [] =
        ((x.nearest? ts).bind Datum.texts?).getD [] ↔
      (x.nearest? ts = some (.list []) →
        ∀ t ∈ ts, ∀ v, x.value? t = some v → v = .list []) := by
  have htexts : ∀ v ∈ ts.filterMap x.value?, v.texts?.isSome := by
    intro v hv
    obtain ⟨t, ht, htv⟩ := List.mem_filterMap.1 hv
    exact (Option.all_eq_true _ _).1 (h t ht) v htv
  rw [nearestTruthy?, ← List.filter_filterMap, nearest?, Datum.getLast?_truthy_eq_iff htexts]
  refine imp_congr_right fun _ => ⟨fun hall t ht v hv => hall v ?_, fun hall v hv => ?_⟩
  · exact List.mem_filterMap.2 ⟨t, ht, hv⟩
  · obtain ⟨t, ht, htv⟩ := List.mem_filterMap.1 hv
    exact hall t ht v htv

namespace Draft

/-- A field of drafts that merging takes from the upper draft wherever that one sets it, and that a
table sets by a value, seen as one of a kind. -/
structure Overlaid {α : Type} (field? : Draft → Option α) (value? : Table → Option Datum)
    (kind? : Datum → Option α) : Prop where
  merge : ∀ lower upper, field? (lower.merge upper) = (field? upper).or (field? lower)
  read : ∀ t, field? (ofSettings t) = (value? t).bind kind?

/-- Such a field is the last of the values that set it in the layers. -/
theorem Overlaid.field?_ofLayers {α : Type} {field? : Draft → Option α}
    {value? : Table → Option Datum} {kind? : Datum → Option α}
    (ho : Overlaid field? value? kind?) {ts : List Table}
    (h : ∀ t ∈ ts, (value? t).all (fun d => (kind? d).isSome) = true) (d : Draft) :
    field? ((ts.map ofSettings).foldl Draft.merge d) =
      ((ts.filterMap value?).getLast?.bind kind?).or (field? d) := by
  rw [foldl_merge ho.merge, getLast?_filterMap_bind h, List.filterMap_map]
  simp only [Function.comp_def, ho.read]

theorem overlaid_useKeywords : Overlaid useKeywords Setting.useKeywords.value? Datum.flag? :=
  ⟨fun _ _ => Option.orElse_eq_or, fun _ => rfl⟩

theorem overlaid_keywords : Overlaid keywords Setting.keywords.value? Datum.texts? :=
  ⟨fun _ _ => Option.orElse_eq_or, fun _ => rfl⟩

theorem overlaid_encoding : Overlaid encoding Setting.encoding.value? Datum.phrase? :=
  ⟨fun _ _ => Option.orElse_eq_or, fun _ => rfl⟩

theorem overlaid_projectName : Overlaid projectName Setting.projectName.value? Datum.phrase? :=
  ⟨fun _ _ => Option.orElse_eq_or, fun _ => rfl⟩

theorem overlaid_patterns? : Overlaid patterns?
    (fun t => (Setting.excludePatterns.value? t).filter Datum.isTruthy) Datum.texts? :=
  ⟨patterns?_merge, fun _ => Datum.filter_texts? _⟩

end Draft

/-- The innermost layer with a value for a setting decides what the setting is, whatever the value,
and the default holds when no layer has one. The patterns of excluded paths are those of the
innermost layer that has some: this is what the innermost layer with a list of them says unless
that list is empty and one further out is not. -/
theorem nearest_layer_decides {ts : List Table} (h : ∀ t ∈ ts, t.WellKinded) :
    ∃ d, Draft.ofLayers ts = .ok d ∧
      d.freeze.useKeywords = ((Setting.useKeywords.nearest? ts).bind Datum.flag?).getD
        Draft.defaults.freeze.useKeywords ∧
      d.freeze.keywords = (((Setting.keywords.nearest? ts).bind Datum.texts?).map
        Text.trimmedEntries).getD Draft.defaults.freeze.keywords ∧
      d.freeze.encoding = ((Setting.encoding.nearest? ts).bind Datum.phrase?).filter (· ≠ []) ∧
      d.freeze.projectName =
        ((Setting.projectName.nearest? ts).bind Datum.phrase?).filter (· ≠ []) ∧
      d.freeze.excludePatterns =
        ((Setting.excludePatterns.nearestTruthy? ts).bind Datum.texts?).getD [] ∧
      (d.freeze.excludePatterns =
          ((Setting.excludePatterns.nearest? ts).bind Datum.texts?).getD [] ↔
        (Setting.excludePatterns.nearest? ts = some (.list []) →
          ∀ t ∈ ts, ∀ v, Setting.excludePatterns.value? t = some v → v = .list [])) := by
  set d := (ts.map Draft.ofSettings).foldl Draft.merge Draft.defaults with hd
  have huse : d.useKeywords = _ :=
    Draft.overlaid_useKeywords.field?_ofLayers (fun t ht => (h t ht).useKeywords) _
  have hkeywords : d.keywords = _ :=
    Draft.overlaid_keywords.field?_ofLayers (fun t ht => (h t ht).keywords) _
  have hencoding : d.encoding = _ :=
    Draft.overlaid_encoding.field?_ofLayers (fun t ht => (h t ht).encoding) _
  have hprojectName : d.projectName = _ :=
    Draft.overlaid_projectName.field?_ofLayers (fun t ht => (h t ht).projectName) _
  have hpatterns : d.excludePatterns =
      ((Setting.excludePatterns.nearestTruthy? ts).bind Datum.texts?).getD [] := by
    rw [d.excludePatterns_eq, hd, Draft.overlaid_patterns?.field?_ofLayers
      (fun t ht => all_filter_of_all (h t ht).excludePatterns), Setting.nearestTruthy?,
      show Draft.defaults.patterns? = none from rfl, Option.or_none]
  refine ⟨d, Draft.ofLayers_eq h, ?_, ?_, ?_, ?_, hpatterns, ?_⟩
  · calc d.freeze.useKeywords
        = d.useKeywords.getD true := rfl
      _ = _ := by rw [huse, Option.getD_or]; rfl
  · calc d.freeze.keywords
        = Text.trimmedEntries (d.keywords.getD []) := rfl
      _ = _ := by rw [hkeywords, Option.getD_or]; exact (Option.getD_map _ _ _).symm
  · calc d.freeze.encoding
        = d.encoding.filter (· ≠ []) := rfl
      _ = _ := by rw [hencoding]; exact filter_or_some_nil _
  · calc d.freeze.projectName
        = d.projectName.filter (· ≠ []) := rfl
      _ = _ := by rw [hprojectName]; exact filter_or_some_nil _
  · rw [show d.freeze.excludePatterns = d.excludePatterns from rfl, hpatterns]
    exact Setting.excludePatterns.nearestTruthy?_texts_eq_iff fun t ht => (h t ht).excludePatterns

/-- Over a layer that sets everything, one that sets everything to what is false or empty decides
all but the patterns. -/
theorem nearest_layer_decides_empty :
    let outer : Config := {
      sources := [], useKeywords := true, keywords := ["mit".toList]
      encoding := some "utf-16".toList, projectName := some "Base".toList
      excludePatterns := ["gen/".toList], languages := [] }
    let inner : Config := {
      sources := [], useKeywords := false, keywords := [], encoding := none, projectName := none
      excludePatterns := [], languages := [] }
    (∀ t ∈ [outer.toTable, inner.toTable], t.WellKinded) ∧
      ∃ d, Draft.ofLayers [outer.toTable, inner.toTable] = .ok d ∧
        d.freeze.useKeywords = false ∧ d.freeze.keywords = [] ∧ d.freeze.encoding = none ∧
        d.freeze.projectName = none ∧ d.freeze.excludePatterns = ["gen/".toList] := by
  intro outer inner
  have h : ∀ t ∈ [outer.toTable, inner.toTable], t.WellKinded := by
    intro t ht
    obtain rfl | rfl : t = outer.toTable ∨ t = inner.toTable := by simpa using ht
    · exact outer.wellKinded_toTable
    · exact inner.wellKinded_toTable
  obtain ⟨d, hd, huse, hkeywords, hencoding, hprojectName, hpatterns, -⟩ := nearest_layer_decides h
  exact ⟨h, d, hd, huse.trans rfl, hkeywords.trans rfl, hencoding.trans rfl, hprojectName.trans rfl,
    hpatterns.trans rfl⟩

/-- A layer with no patterns says so in vain under one with patterns. -/
theorem exclusions_of_outer_layer_stay :
    let layer := fun patterns : List Text => ([("files".toList, .table
      [("exclude_patterns".toList, .list (patterns.map .text))])] : Table)
    let ts := [layer ["gen/".toList], layer []]
    (∀ t ∈ ts, Table.WellKinded t) ∧ Setting.excludePatterns.nearest? ts = some (.list []) ∧
      ∃ d, Draft.ofLayers ts = .ok d ∧ d.freeze.excludePatterns = ["gen/".toList] := by
  intro layer ts
  refine ⟨fun t ht => ?_, rfl, _, rfl, rfl⟩
  obtain rfl | rfl : t = layer ["gen/".toList] ∨ t = layer [] := by simpa [ts] using ht
  all_goals
    refine ⟨fun name hname => ?_, rfl, rfl, rfl, rfl, rfl, rfl⟩
    simp only [List.mem_cons, List.not_mem_nil, or_false] at hname
    rcases hname with rfl | rfl | rfl <;> rfl

end Letterhead

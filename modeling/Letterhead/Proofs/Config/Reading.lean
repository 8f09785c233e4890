import Letterhead.Config.Draft

/-
  Reading well-kinded tables. A reader of a field gives what the value under the key is, seen as a
  value of the kind that is asked for, and a missing key gives nothing (`Table.flag?_eq` and its
  fellows). Where every field can be seen so, the draft of a table is put together from them
  (`Draft.ofTable_eq`).
-/

namespace Letterhead

/-! ## Values of a kind -/

namespace Datum

/-- A datum as a truth value. -/
def flag? : Datum → Option Bool
  | bool b => some b
  | _ => none

/-- A datum as texts. -/
def texts? : Datum → Option (List Text)
  | list ds => ds.mapM text?
  | _ => none

/-- A datum as tables. -/
def tables? : Datum → Option (List Table)
  | list ds => ds.mapM table?
  | _ => none

/-- A datum as a text, which a number or a truth value can be described by. -/
def phrase? : Datum → Option Text
  | text s => some s
  | int n => if Whole.isWritable n then some (int n).describe else none
  | float x => some (float x).describe
  | bool b => some (bool b).describe
  | _ => none

theorem texts?_list (ss : List Text) : (list (ss.map text)).texts? = some ss := by
  rw [texts?]
  induction ss with
  | nil => rfl
  | cons s ss ih => simp [List.mapM_cons, ih, text?]

theorem tables?_list (ts : List Table) : (list (ts.map table)).tables? = some ts := by
  rw [tables?]
  induction ts with
  | nil => rfl
  | cons t ts ih => simp [List.mapM_cons, ih, table?]

end Datum

/-! ## Fields of a kind -/

namespace Table

variable {t : Table} {key : Text}

/-- Either there is no value under a key, or there is one of the kind that is asked for. -/
theorem value?_cases {α : Type} {kind? : Datum → Option α} {o : Option α}
    (h : (t.value? key).map kind? = o.map some) :
    t.value? key = none ∧ o = none ∨
      ∃ d a, t.value? key = some d ∧ o = some a ∧ kind? d = some a := by
  cases hv : t.value? key with
  | none =>
    rw [hv] at h
    exact Or.inl ⟨rfl, Option.map_eq_none_iff.1 h.symm⟩
  | some d =>
    rw [hv] at h
    obtain ⟨a, ho, hd⟩ := Option.map_eq_some_iff.1 h.symm
    exact Or.inr ⟨d, a, rfl, ho, hd.symm⟩

theorem table_eq {o : Option Table} (h : (t.value? key).map Datum.table? = o.map some) :
    t.table key = .ok (o.getD []) := by
  rcases value?_cases h with ⟨hv, rfl⟩ | ⟨d, sub, hv, rfl, hd⟩
  · rw [table, hv]
    rfl
  · rw [table, hv]
    cases d <;> simp_all [Datum.table?]

theorem flag?_eq {o : Option Bool} (h : (t.value? key).map Datum.flag? = o.map some) :
    t.flag? key = .ok o := by
  rcases value?_cases h with ⟨hv, rfl⟩ | ⟨d, b, hv, rfl, hd⟩
  · rw [flag?, hv]
  · rw [flag?, hv]
    cases d <;> simp_all [Datum.flag?]

theorem texts?_eq {o : Option (List Text)} (h : (t.value? key).map Datum.texts? = o.map some) :
    t.texts? key = .ok o := by
  rcases value?_cases h with ⟨hv, rfl⟩ | ⟨d, ss, hv, rfl, hd⟩
  · rw [texts?, hv]
  · rw [texts?, hv]
    cases d <;> simp_all [Datum.texts?]

theorem tables_eq {o : Option (List Table)} (h : (t.value? key).map Datum.tables? = o.map some) :
    t.tables key = .ok (o.getD []) := by
  rcases value?_cases h with ⟨hv, rfl⟩ | ⟨d, ts, hv, rfl, hd⟩
  · rw [tables, hv]
    rfl
  · rw [tables, hv]
    cases d <;> simp_all [Datum.tables?]

theorem phrase?_eq {o : Option Text} (h : (t.value? key).map Datum.phrase? = o.map some) :
    t.phrase? key = .ok o := by
  rcases value?_cases h with ⟨hv, rfl⟩ | ⟨d, s, hv, rfl, hd⟩
  · rw [phrase?, hv]
  · rw [phrase?, hv]
    cases d <;> simp_all [Datum.phrase?]

end Table

/-- The draft of a table whose fields can all be read. -/
theorem Draft.ofTable_eq {t keywords definitions files : Table} {useKeywords : Option Bool}
    {words patterns : Option (List Text)} {encoding projectName : Option Text}
    {languages : List Table}
    (hkeywords : t.table "keywords".toList = .ok keywords)
    (hdefinitions : t.table "definitions".toList = .ok definitions)
    (hfiles : t.table "files".toList = .ok files)
    (huse : keywords.flag? "use_required_keywords".toList = .ok useKeywords)
    (hwords : keywords.texts? "required_keywords".toList = .ok words)
    (hencoding : definitions.phrase? "encoding".toList = .ok encoding)
    (hproject : definitions.phrase? "project_name".toList = .ok projectName)
    (hpatterns : files.texts? "exclude_patterns".toList = .ok patterns)
    (hlanguages : t.tables "languages".toList = .ok languages) :
    Draft.ofTable t = .ok {
      useKeywords, keywords := words, encoding, projectName
      excludePatterns := patterns.getD [], languages } := by
  simp only [ofTable, hkeywords, hdefinitions, hfiles, huse, hwords, hencoding, hproject,
    hpatterns, hlanguages, bind, Except.bind, pure, Except.pure]

end Letterhead

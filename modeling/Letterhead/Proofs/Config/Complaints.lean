import Letterhead.Proofs.Config.Layers

/-
  What is wrong with settings. Each setting makes a demand on the value under its key, and the
  demands are checked one after the other, the sections first. A table has no draft exactly when
  some demand is not met, and the error is the complaint about the first one
  (`Draft.ofTable_error_iff`). A complaint that shows a value can fail to be written, which is the
  case only if the value holds a whole number with too many digits (`exists_of_unwritable`).
-/

namespace Letterhead

variable {t : Table} {e : FieldError}

/-! ## Demands -/

/-- What is asked of a value in a table: where it is, whether it will do, and what is said of it if it
will not. -/
structure Demand where
  value? : Table → Option Datum
  meets : Datum → Bool
  complaint : Datum → FieldError

namespace Demand

/-- A section has to be a table. -/
def table (name : Text) : Demand where
  value? t := t.value? name
  meets v := v.table?.isSome
  complaint v := .notTable name v

/-- A setting has to be a truth value. -/
def flag (x : Setting) : Demand where
  value? := x.value?
  meets v := v.flag?.isSome
  complaint v := .showing v (.notFlag x.key v)

/-- A setting has to be a list of texts. -/
def texts (x : Setting) : Demand where
  value? := x.value?
  meets v := v.texts?.isSome
  complaint v := .showing v (.notTexts x.key v)

/-- A setting can be anything, but a whole number has to be short enough to be written. -/
def phrase (x : Setting) : Demand where
  value? := x.value?
  meets v :=
    match v with
    | .int n => Whole.isWritable n
    | _ => true
  complaint _ := .unwritable

/-- The value under a key has to be a list of tables. -/
def tables (key : Text) : Demand where
  value? t := t.value? key
  meets v := v.tables?.isSome
  complaint _ := .notTables key

/-- What is said of the value that does not meet a demand, if there is one. -/
def complaint? (x : Demand) (t : Table) : Option FieldError :=
  ((x.value? t).filter fun v => !x.meets v).map x.complaint

end Demand

/-- The demands on a table of settings, in the order in which they are checked. -/
def demands : List Demand := [
  .table "keywords".toList, .table "definitions".toList, .table "files".toList,
  .flag .useKeywords, .texts .keywords, .phrase .encoding, .phrase .projectName,
  .texts .excludePatterns, .tables "languages".toList]

/-- The complaint about the first demand that a table does not meet. -/
def firstComplaint? (t : Table) : Option FieldError := demands.findSome? (·.complaint? t)

/-! ## Readers that complain -/

/-- A reader fails with the complaint, or succeeds if there is none. -/
def Complains {ε α : Type} (r : Except ε α) (c : Option ε) : Prop :=
  match r with
  | .ok _ => c = none
  | .error e => c = some e

namespace Complains

variable {ε α β : Type}

theorem error_iff {r : Except ε α} {c : Option ε} (h : Complains r c) {e : ε} :
    r = .error e ↔ c = some e := by
  cases r with
  | ok a =>
    have hc : c = none := h
    simp [hc]
  | error e' =>
    have hc : c = some e' := h
    simp [hc]

/-- Of two readers, the first to complain decides. -/
theorem bind {r : Except ε α} {c c' : Option ε} {f : α → Except ε β} (h : Complains r c)
    (hf : ∀ a, r = .ok a → Complains (f a) c') : Complains (r >>= f) (c.or c') := by
  cases r with
  | ok a =>
    have hc : c = none := h
    rw [hc, Option.none_or]
    exact hf a rfl
  | error e =>
    have hc : c = some e := h
    rw [hc]
    rfl

theorem pure (a : α) : Complains (.ok a : Except ε α) none := rfl

end Complains

theorem complains_table (t : Table) (name : Text) :
    Complains (t.table name) ((Demand.table name).complaint? t) := by
  have hvalue : (Demand.table name).value? t = t.value? name := rfl
  rw [Table.table, Demand.complaint?, hvalue]
  cases hv : t.value? name with
  | none => rfl
  | some v => cases v <;> rfl

theorem table_eq_of_ok {name : Text} {sub : Table} (h : t.table name = .ok sub) :
    ((t.value? name).bind Datum.table?).getD [] = sub := by
  rw [Table.table] at h
  cases hv : t.value? name with
  | none =>
    rw [hv] at h
    exact Except.ok.inj h
  | some v =>
    rw [hv] at h
    cases v with
    | table sub' => exact Except.ok.inj h
    | _ => cases h

section Setting

variable {x : Setting} {sub : Table} (h : t.table x.sectionName = .ok sub)

include h

theorem value?_eq_of_ok : x.value? t = sub.value? x.key := by
  rw [Setting.value?, table_eq_of_ok h]

theorem complains_flag : Complains (sub.flag? x.key) ((Demand.flag x).complaint? t) := by
  have hvalue : (Demand.flag x).value? t = sub.value? x.key := value?_eq_of_ok h
  rw [Table.flag?, Demand.complaint?, hvalue]
  cases hv : sub.value? x.key with
  | none => rfl
  | some v => cases v <;> simp [Complains, Demand.flag, Datum.flag?]

theorem complains_texts : Complains (sub.texts? x.key) ((Demand.texts x).complaint? t) := by
  have hvalue : (Demand.texts x).value? t = sub.value? x.key := value?_eq_of_ok h
  rw [Table.texts?, Demand.complaint?, hvalue]
  cases hv : sub.value? x.key with
  | none => rfl
  | some v =>
    cases v with
    | list ds =>
      cases hds : ds.mapM Datum.text? with
      | none => simp [Complains, Demand.texts, Datum.texts?, hds]
      | some ss => simp [Complains, Demand.texts, Datum.texts?, hds]
    | _ => simp [Complains, Demand.texts, Datum.texts?]

theorem complains_phrase : Complains (sub.phrase? x.key) ((Demand.phrase x).complaint? t) := by
  have hvalue : (Demand.phrase x).value? t = sub.value? x.key := value?_eq_of_ok h
  rw [Table.phrase?, Demand.complaint?, hvalue]
  cases hv : sub.value? x.key with
  | none => rfl
  | some v =>
    cases v with
    | int n => cases hn : Whole.isWritable n <;> simp [Complains, Demand.phrase, hn]
    | _ => simp [Complains, Demand.phrase]

end Setting

theorem complains_tables (t : Table) (key : Text) :
    Complains (t.tables key) ((Demand.tables key).complaint? t) := by
  have hvalue : (Demand.tables key).value? t = t.value? key := rfl
  rw [Table.tables, Demand.complaint?, hvalue]
  cases hv : t.value? key with
  | none => rfl
  | some v =>
    cases v with
    | list ds =>
      cases hds : ds.mapM Datum.table? with
      | none => simp [Complains, Demand.tables, Datum.tables?, hds]
      | some ts => simp [Complains, Demand.tables, Datum.tables?, hds]
    | _ => rfl

theorem findSome?_cons_eq_or {α β : Type} (f : α → Option β) (x : α) (xs : List α) :
    (x :: xs).findSome? f = (f x).or (xs.findSome? f) := by
  rw [List.findSome?_cons]
  cases f x <;> rfl

/-- A table has no draft exactly when it does not meet some demand, and what is said is the complaint
about the first one. -/
theorem Draft.ofTable_error_iff : Draft.ofTable t = .error e ↔ firstComplaint? t = some e := by
  refine Complains.error_iff ?_
  simp only [firstComplaint?, demands, findSome?_cons_eq_or, List.findSome?_nil]
  rw [Draft.ofTable]
  refine (complains_table t _).bind fun keywords hkeywords => ?_
  refine (complains_table t _).bind fun definitions hdefinitions => ?_
  refine (complains_table t _).bind fun files hfiles => ?_
  refine (complains_flag (x := .useKeywords) hkeywords).bind fun _ _ => ?_
  refine (complains_texts (x := .keywords) hkeywords).bind fun _ _ => ?_
  refine (complains_phrase (x := .encoding) hdefinitions).bind fun _ _ => ?_
  refine (complains_phrase (x := .projectName) hdefinitions).bind fun _ _ => ?_
  refine (complains_texts (x := .excludePatterns) hfiles).bind fun _ _ => ?_
  exact (complains_tables t _).bind fun _ _ => Complains.pure _

/-! ## Complaints that cannot be written -/

theorem FieldError.isFault_iff : e.isFault = true ↔ e = .unwritable := by
  cases e <;> simp [FieldError.isFault]

theorem FieldError.not_isWritable_of_showing {v : Datum} (h : FieldError.showing v e = .unwritable)
    (he : e ≠ .unwritable) : v.isWritable = false := by
  rw [FieldError.showing] at h
  split at h
  · exact absurd h he
  next hv => exact Bool.eq_false_iff.2 hv

namespace Demand

/-- A complaint that cannot be written is about a value that cannot be written. -/
def Shows (x : Demand) : Prop :=
  ∀ v, x.meets v = false → x.complaint v = .unwritable → v.isWritable = false

theorem shows_table (name : Text) : (table name).Shows := by
  intro v _ h
  cases h

theorem shows_flag (x : Setting) : (flag x).Shows := by
  intro v _ h
  exact FieldError.not_isWritable_of_showing h nofun

theorem shows_texts (x : Setting) : (texts x).Shows := by
  intro v _ h
  exact FieldError.not_isWritable_of_showing h nofun

theorem shows_phrase (x : Setting) : (phrase x).Shows := by
  intro v hnot _
  cases v with
  | int n => simpa only [phrase, Datum.isWritable] using hnot
  | _ => simp [phrase] at hnot

theorem shows_tables (key : Text) : (tables key).Shows := by
  intro v _ h
  cases h

theorem shows_of_mem {x : Demand} (hx : x ∈ demands) : x.Shows := by
  simp only [demands, List.mem_cons, List.not_mem_nil, or_false] at hx
  rcases hx with rfl | rfl | rfl | rfl | rfl | rfl | rfl | rfl | rfl
  · exact shows_table _
  · exact shows_table _
  · exact shows_table _
  · exact shows_flag _
  · exact shows_texts _
  · exact shows_phrase _
  · exact shows_phrase _
  · exact shows_texts _
  · exact shows_tables _

end Demand

/-- If what is wrong with a table cannot be said, some value in it cannot be written. -/
theorem exists_of_unwritable (h : firstComplaint? t = some .unwritable) :
    ∃ x ∈ demands, ∃ v, x.value? t = some v ∧ v.isWritable = false := by
  obtain ⟨x, hx, hsays⟩ := List.exists_of_findSome?_eq_some h
  obtain ⟨v, hv, hunwritable⟩ := Option.map_eq_some_iff.1 hsays
  obtain ⟨hvalue, hnot⟩ := Option.filter_eq_some_iff.1 hv
  refine ⟨x, hx, v, hvalue, Demand.shows_of_mem hx v ?_ hunwritable⟩
  exact Bool.eq_false_iff.2 (by simpa using hnot)

end Letterhead

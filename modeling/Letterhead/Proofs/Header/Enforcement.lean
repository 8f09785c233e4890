import Letterhead.Header.Apply
import Letterhead.Proofs.Buffer.Edits
import Letterhead.Proofs.Comment.Seam
import Letterhead.Proofs.Header.Conservation

/-
  Enforcing a rule on a buffer that refuses nothing. The buffer then holds what the plan says
  (`enforce_holding`). Without a skip pattern that is the rest of the document, below what the
  rule writes for its header (`result_eq`), and everything below the leading comments is still
  there (`below_result`, `hasUnclosedBlock_result`).
-/

namespace Letterhead

open Letterhead.Comment

namespace Buffer

/-- A buffer that is one document and refuses no edit within its text. -/
def holding (s m : Text) : Buffer := { text := s, lineBreak := m }

@[simp] theorem holding_lineBreak (s m : Text) : (holding s m).lineBreak = m := rfl

theorem holds_holding (s m : Text) : (holding s m).Holds [] s := ⟨rfl, rfl⟩

theorem document_holding (s m : Text) : (holding s m).document = .ok s :=
  (holds_holding s m).document_eq

theorem delete_holding (s t r m : Text) :
    (holding (s ++ t ++ r) m).delete s.length (s.length + t.length) =
      (.ok (), holding (s ++ r) m) := by
  have h := (holds_holding (s ++ t ++ r) m).delete_eq
  simpa [holding] using h

theorem insert_holding (s t r m : Text) :
    (holding (s ++ r) m).insert s.length t = (.ok (), holding (s ++ t ++ r) m) := by
  have h := (holds_holding (s ++ r) m).insert_eq t
  simpa [holding] using h

end Buffer

namespace Plan

theorem edit_holding (p : Plan) (m : Text) :
    p.edit (.holding p.source m) = (.ok (), .holding p.result m) := by
  have hdelete : (if p.deleted = [] then (.ok (), Buffer.holding p.source m)
      else (Buffer.holding p.source m).delete p.above.length
        (p.above.length + p.deleted.length)) =
      ((.ok (), .holding (p.above ++ p.below) m) : Except BufferError Unit × Buffer) := by
    by_cases hd : p.deleted = []
    · rw [if_pos hd, source, hd, List.append_nil]
    · rw [if_neg hd]
      exact Buffer.delete_holding p.above p.deleted p.below m
  have hinsert : (if p.inserted = [] then (.ok (), Buffer.holding (p.above ++ p.below) m)
      else (Buffer.holding (p.above ++ p.below) m).insert p.above.length p.inserted) =
      ((.ok (), .holding p.result m) : Except BufferError Unit × Buffer) := by
    by_cases hi : p.inserted = []
    · rw [if_pos hi, result, hi, List.append_nil]
    · rw [if_neg hi]
      exact Buffer.insert_holding p.above p.inserted p.below m
  have hstart : ((Buffer.holding p.source m).start : Int) + p.above.length = p.above.length := by
    simp [Buffer.holding]
  unfold edit
  dsimp only
  rw [hstart, hdelete]
  exact hinsert

theorem apply_holding (p : Plan) (m : Text) (hp : p.changes = false → p.result = p.source) :
    p.apply (.holding p.source m) = (.ok (), .holding p.result m) := by
  unfold apply
  cases hc : p.changes with
  | false => simp [hp hc]
  | true => simp [Buffer.document_holding, edit_holding]

end Plan

namespace HeaderRule

variable (r : HeaderRule) (s : Text)

theorem source_plan : (r.plan s).source = s := by
  have hplan := r.plans_plan s
  generalize r.plan s = p at hplan
  cases hplan with
  | keep h => rw [Plan.source, List.append_nil, above_append_body]
  | remove hh he =>
    rw [Plan.source, List.append_assoc, existing_append_rest, above_append_body]
  | write h hh he =>
    rw [Plan.source, List.append_assoc, existing_append_rest, above_append_body]

theorem result_plan_of_not_changes (hc : (r.plan s).changes = false) : (r.plan s).result = s := by
  have hplan := r.plans_plan s
  generalize r.plan s = p at hplan hc
  cases hplan with
  | keep h => rw [Plan.result, List.append_nil, above_append_body]
  | remove hh he => simp [Plan.changes] at hc
  | write h hh he =>
    by_cases hnil : r.existing (r.body s) = [] <;> simp [Plan.changes, hnil] at hc

/-- A plan that edits the document alters its text: what is written in the place of the header is
not what was there. -/
theorem result_ne_of_changes {lb : LineBreak} (hlb : r.lineBreak = lb.text)
    (hc : (r.plan s).changes = true) : (r.plan s).result ≠ s := by
  have hplan := r.plans_plan s
  have hsource : r.above s ++ r.existing (r.body s) ++ r.rest (r.body s) = s := by
    rw [List.append_assoc, existing_append_rest, above_append_body]
  generalize r.plan s = p at hplan hc
  cases hplan with
  | keep h => cases hc
  | remove hh he =>
    intro heq
    rw [Plan.result, List.append_nil] at heq
    have hlen := congrArg List.length (heq.trans hsource.symm)
    have hpos := List.length_pos_iff.2 he
    simp only [List.length_append] at hlen
    omega
  | write h hh he =>
    intro heq
    have hnew : r.parted (r.above s) h (r.rest (r.body s)) = r.existing (r.body s) :=
      List.append_cancel_left (List.append_cancel_right (heq.trans hsource.symm))
    rw [parted] at hnew
    by_cases hparts : r.above s = [] ∨ Text.endsLine (r.above s) = true
    · rw [if_pos hparts, List.nil_append] at hnew
      exact he hnew.symm
    · -- The header would begin with a line break, behind a line that does not end there.
      rw [if_neg hparts] at hnew
      rw [not_or] at hparts
      have hnone := r.take?_body s hparts.1 hparts.2
      rw [← r.existing_append_rest (r.body s), ← hnew, hlb, List.append_assoc] at hnone
      rcases LineBreak.exists_take?_append lb
        (r.written h (r.rest (r.body s)) ++ r.rest (r.body s)) with hb | ⟨-, g, -, hb⟩
      · rw [hb] at hnone
        cases hnone
      · rw [hb] at hnone
        cases hnone

/-- A buffer that refuses nothing ends up with the result of the plan. -/
theorem enforce_holding (m : Text) (hp : r.header = none ∨ r.lineBreak ≠ []) :
    r.enforce (.holding s m) = (.ok (r.plan s).action, .holding (r.plan s).result m) := by
  have happly : (r.plan s).apply (.holding s m) = (.ok (), .holding (r.plan s).result m) := by
    have h := (r.plan s).apply_holding m fun hc => by
      rw [r.result_plan_of_not_changes s hc, source_plan]
    rwa [source_plan] at h
  simp [enforce, Buffer.document_holding, r.planned_eq s hp, happly]

theorem written_ne_nil_of_lineBreak {lb : LineBreak} (hlb : r.lineBreak = lb.text)
    (h following : Text) : r.written h following ≠ [] := by
  unfold written
  dsimp only
  split <;> simp [hlb, lb.text_ne]

/-- A rule with a header to write leaves it between what is above and the rest, on a line of its
own, unless there is text behind what is above in the same line. -/
theorem result_plan_eq {lb : LineBreak} (hlb : r.lineBreak = lb.text) {h : Text}
    (hh : r.header = some h)
    (hs : r.above s = [] ∨ Text.endsLine (r.above s) = true ∨ r.body s = []) :
    (r.plan s).result = r.above s ++ r.parted (r.above s) h (r.rest (r.body s)) ++
      r.rest (r.body s) := by
  have hrest := r.existing_append_rest (r.body s)
  have hplan := r.plans_plan s
  generalize r.plan s = p at hplan
  cases hplan with
  | keep hkeep =>
    rcases hkeep with ⟨hnone, -⟩ | ⟨h', hh', he⟩
    · simp [hh] at hnone
    · obtain rfl : h = h' := by simpa [hh] using hh'
      have hends : r.above s = [] ∨ Text.endsLine (r.above s) = true := by
        refine or_assoc.2 hs |>.resolve_right fun hbody => ?_
        rw [hbody] at he hrest
        exact r.written_ne_nil_of_lineBreak hlb h _ (he ▸ (List.append_eq_nil_iff.1 hrest).1)
      rw [parted, if_pos hends, Plan.result, List.append_nil, List.append_assoc, List.nil_append,
        ← he, hrest]
  | remove hnone _ => simp [hh] at hnone
  | write h' hh' he =>
    obtain rfl : h = h' := by simpa [hh] using hh'
    rfl

/-- A document is left as it is when what is found is what would be written. -/
theorem action_plan_eq_none_iff {h : Text} (hh : r.header = some h) : (r.plan s).action = .none ↔
    r.existing (r.body s) = r.written h (r.rest (r.body s)) := by
  have hplan := r.plans_plan s
  generalize r.plan s = p at hplan
  cases hplan with
  | keep hkeep =>
    rcases hkeep with ⟨hnone, -⟩ | ⟨h', hh', he⟩
    · simp [hh] at hnone
    · obtain rfl : h = h' := by simpa [hh] using hh'
      exact ⟨fun _ => he, fun _ => rfl⟩
  | remove hnone _ => simp [hh] at hnone
  | write h' hh' he =>
    obtain rfl : h = h' := by simpa [hh] using hh'
    refine ⟨fun ha => ?_, fun he' => absurd he' he⟩
    by_cases hnil : r.existing (r.body s) = [] <;> simp [hnil] at ha

/-- To enforce a rule changes nothing exactly when the plan does nothing. -/
theorem enforce_eq_none_iff (m : Text) (hp : r.header = none ∨ r.lineBreak ≠ []) :
    r.enforce (.holding s m) = (.ok .none, .holding s m) ↔ (r.plan s).action = .none := by
  rw [r.enforce_holding s m hp]
  constructor
  · intro hrun
    simpa using congrArg Prod.fst hrun
  · intro hidle
    rw [hidle, r.result_plan_of_not_changes s (by rw [Plan.changes, hidle]; rfl)]

/-! ## Without a skip pattern -/

section Unskipped

variable {r}

theorem above_eq_nil (hskip : r.style.skip = none) : r.above s = [] := by
  simp [above, hskip]

theorem body_eq (hskip : r.style.skip = none) : r.body s = s := by
  rw [body, above_eq_nil s hskip, List.length_nil, List.drop_zero]

theorem plan_remove (hskip : r.style.skip = none) (hh : r.header = none) :
    r.plan s = if r.existing s = [] then ⟨.none, [], [], [], s⟩
      else ⟨.remove, [], r.existing s, [], r.rest s⟩ := by
  simp [plan, hh, above_eq_nil s hskip, rest]

theorem plan_write (hskip : r.style.skip = none) {h : Text} (hh : r.header = some h) :
    r.plan s = if r.existing s = r.written h (r.rest s) then ⟨.none, [], [], [], s⟩
      else ⟨if r.existing s = [] then .insert else .replace, [], r.existing s,
        r.written h (r.rest s), r.rest s⟩ := by
  have hrest : s.drop (r.existing s).length = r.rest s := rfl
  simp [plan, hh, above_eq_nil s hskip, hrest]

theorem result_remove (hskip : r.style.skip = none) (hh : r.header = none) :
    (r.plan s).result = r.rest s := by
  have hrest := r.existing_append_rest s
  rw [plan_remove s hskip hh]
  split
  next he =>
    rw [he, List.nil_append] at hrest
    exact hrest.symm
  next => rfl

theorem result_write (hskip : r.style.skip = none) {h : Text} (hh : r.header = some h) :
    (r.plan s).result = r.written h (r.rest s) ++ r.rest s := by
  have hrest := r.existing_append_rest s
  rw [plan_write s hskip hh]
  split
  next he =>
    rw [he] at hrest
    exact hrest.symm
  next => simp [Plan.result]

/-- A document is left as it is when it begins with what would be written for its rest. -/
theorem action_eq_none_iff (hskip : r.style.skip = none) {h : Text} (hh : r.header = some h) :
    (r.plan s).action = .none ↔ r.existing s = r.written h (r.rest s) := by
  rw [action_plan_eq_none_iff r s hh, body_eq s hskip]

theorem action_eq_none_of_remove (hskip : r.style.skip = none) (hh : r.header = none)
    (he : r.existing s = []) : (r.plan s).action = .none := by
  rw [plan_remove s hskip hh, if_pos he]

end Unskipped

/-! ## What is below the leading comments -/

section Below

variable {r} {lb : LineBreak} {h : Text}

/-- The blank line that parts a header from a comment below it, where it needs one. -/
def blankLine (r : HeaderRule) (h following : Text) : Text :=
  if !r.endsWithBlankLine h && r.style.startsWithComment following then r.lineBreak else []

theorem written_eq (r : HeaderRule) (h following : Text) :
    r.written h following = h ++ r.blankLine h following ++ r.lineBreak := by
  unfold written blankLine
  dsimp only
  split
  · rfl
  · rw [List.append_nil]

theorem blankLine_cases (hlb : r.lineBreak = lb.text) (h following : Text) :
    r.blankLine h following = [] ∨ r.blankLine h following = lb.text := by
  unfold blankLine
  split
  · exact Or.inr hlb
  · exact Or.inl rfl

theorem blankLine_of_comment {following : Text} (he : r.endsWithBlankLine h = false)
    (hs : r.style.startsWithComment following = true) :
    r.blankLine h following = r.lineBreak := by
  simp [blankLine, he, hs]

theorem of_blankLine_ne_nil {following : Text} (hz : r.blankLine h following ≠ []) :
    r.endsWithBlankLine h = false ∧ r.style.startsWithComment following = true := by
  unfold blankLine at hz
  split at hz
  next hif => simpa using hif
  next => exact absurd rfl hz

/-- A header is one with the blank line behind it as well. -/
theorem isHeader_append_blankLine (hst : r.style.MarkersInLine) (hlb : r.lineBreak = lb.text)
    (hh : r.style.isHeader h = true) (following : Text) :
    r.style.isHeader (h ++ r.blankLine h following) = true := by
  rcases blankLine_cases hlb h following with hz | hz
  · rw [hz, List.append_nil]
    exact hh
  · rw [hz]
    exact Style.isHeader_append_line hst hh lb

theorem isHeader_written (hst : r.style.MarkersInLine) (hlb : r.lineBreak = lb.text)
    (hh : r.style.isHeader h = true) (following : Text) :
    r.style.isHeader (r.written h following) = true := by
  rw [written_eq, hlb]
  exact Style.isHeader_append_line hst (isHeader_append_blankLine hst hlb hh following) lb

/-- A header of the style, as it is written, leaves what is below any text behind it. -/
theorem below_written (hst : r.style.MarkersInLine) (hlb : r.lineBreak = lb.text)
    (hh : r.style.isHeader h = true) (following g : Text) :
    r.style.below (r.written h following ++ g) = r.style.below g := by
  have hh' := isHeader_append_blankLine hst hlb hh following
  rw [written_eq, hlb, List.append_assoc, Style.below_append_line hst hh']

theorem hasUnclosedBlock_written (hst : r.style.MarkersInLine) (hlb : r.lineBreak = lb.text)
    (hh : r.style.isHeader h = true) (following g : Text) :
    r.style.hasUnclosedBlock (r.written h following ++ g) = r.style.hasUnclosedBlock g := by
  have hh' := isHeader_append_blankLine hst hlb hh following
  rw [written_eq, hlb, List.append_assoc, Style.hasUnclosedBlock_append_line hst hh']

/-- A plan moves nothing into the leading comments of a document and nothing out of them. -/
theorem below_result (hskip : r.style.skip = none) (hst : r.style.MarkersInLine)
    (hlb : r.lineBreak = lb.text) (hr : r.acceptsHeader = true) :
    r.style.below (r.plan s).result = r.style.below s := by
  cases hh : r.header with
  | none => rw [result_remove s hskip hh, below_rest]
  | some h =>
    have hh' : r.style.isHeader h = true := by simpa [acceptsHeader, hh] using hr
    rw [result_write s hskip hh, below_written hst hlb hh', below_rest]

theorem hasUnclosedBlock_result (hskip : r.style.skip = none) (hst : r.style.MarkersInLine)
    (hlb : r.lineBreak = lb.text) (hr : r.acceptsHeader = true) :
    r.style.hasUnclosedBlock (r.plan s).result = r.style.hasUnclosedBlock s := by
  cases hh : r.header with
  | none => rw [result_remove s hskip hh, hasUnclosedBlock_rest]
  | some h =>
    have hh' : r.style.isHeader h = true := by simpa [acceptsHeader, hh] using hr
    rw [result_write s hskip hh, hasUnclosedBlock_written hst hlb hh', hasUnclosedBlock_rest]

end Below

end HeaderRule
end Letterhead

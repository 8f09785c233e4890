import Letterhead.Proofs.Header.Existing

/-
  Conservation by plans. A plan cuts a document into the text above the header, the header that is
  there and the text below, and only the middle changes: it stays, goes, or gives way to what the
  rule writes. The middle is a header by itself, made of the first tokens of the text below the
  skipped part, so no plan deletes a character of code, of an open block comment or of an open
  region (`planned_conserves`).
-/

namespace Letterhead.HeaderRule

open Letterhead.Comment

variable (r : HeaderRule) (s : Text)

/-! ## What plans there are -/

/-- What a rule with the header `h` writes between a text above and a text below. A line break
parts it from a text above that does not end its line. -/
def parted (above h below : Text) : Text :=
  (if above = [] ∨ Text.endsLine above = true then [] else r.lineBreak) ++ r.written h below

/-- The plans of a rule, by their actions. -/
inductive Plans : Plan → Prop
  | keep
      (h : r.header = none ∧ r.existing (r.body s) = [] ∨
        ∃ h, r.header = some h ∧ r.existing (r.body s) = r.written h (r.rest (r.body s))) :
      Plans ⟨.none, r.above s, [], [], r.body s⟩
  | remove (hh : r.header = none) (he : r.existing (r.body s) ≠ []) :
      Plans ⟨.remove, r.above s, r.existing (r.body s), [], r.rest (r.body s)⟩
  | write (h : Text) (hh : r.header = some h)
      (he : r.existing (r.body s) ≠ r.written h (r.rest (r.body s))) :
      Plans ⟨if r.existing (r.body s) = [] then .insert else .replace, r.above s,
        r.existing (r.body s), r.parted (r.above s) h (r.rest (r.body s)), r.rest (r.body s)⟩

theorem plans_plan : r.Plans s (r.plan s) := by
  have hrest : (r.body s).drop (r.existing (r.body s)).length = r.rest (r.body s) := rfl
  unfold plan
  dsimp only
  rw [← body, hrest]
  cases hh : r.header with
  | none =>
    dsimp only
    split
    next he => exact .keep (Or.inl ⟨hh, he⟩)
    next he => exact .remove hh he
  | some h =>
    dsimp only
    split
    next he => exact .keep (Or.inr ⟨h, hh, he⟩)
    next he =>
      have hparted : (if r.above s = [] || Text.endsLine (r.above s)
            then r.written h (r.rest (r.body s))
            else r.lineBreak ++ r.written h (r.rest (r.body s))) =
          r.parted (r.above s) h (r.rest (r.body s)) := by
        unfold parted
        by_cases ha : r.above s = [] ∨ Text.endsLine (r.above s) = true
        · simp [ha]
        · simp [ha]
      rw [hparted]
      exact .write h hh he

theorem written_ne_nil {h : Text} (hne : h ≠ []) (below : Text) : r.written h below ≠ [] := by
  unfold written
  dsimp only
  split <;> simp [hne]

/-- A header is inserted where none is found. -/
theorem plan_of_insertion {h : Text} (hh : r.header = some h) (hne : h ≠ [])
    (he : r.existing (r.body s) = []) :
    r.plan s = ⟨.insert, r.above s, [], r.parted (r.above s) h (r.body s), r.body s⟩ := by
  have hrest : r.rest (r.body s) = r.body s := by rw [rest, he, List.length_nil, List.drop_zero]
  have hplan := r.plans_plan s
  generalize r.plan s = p at hplan
  cases hplan with
  | keep hkeep =>
    rcases hkeep with ⟨hnone, -⟩ | ⟨h', hh', hkeep⟩
    · simp [hh] at hnone
    · obtain rfl : h = h' := by simpa [hh] using hh'
      exact absurd (hkeep.symm.trans he) (r.written_ne_nil hne _)
  | remove hnone _ => simp [hh] at hnone
  | write h' hh' _ =>
    obtain rfl : h = h' := by simpa [hh] using hh'
    rw [hrest, if_pos he, he]

/-- The header that is found is taken off when none is to be written. -/
theorem plan_of_removal (hh : r.header = none) (he : r.existing (r.body s) ≠ []) :
    r.plan s = ⟨.remove, r.above s, r.existing (r.body s), [], r.rest (r.body s)⟩ := by
  have hplan := r.plans_plan s
  generalize r.plan s = p at hplan
  cases hplan with
  | keep hkeep =>
    rcases hkeep with ⟨-, hnil⟩ | ⟨h, hh', -⟩
    · exact absurd hnil he
    · simp [hh] at hh'
  | remove _ _ => rfl
  | write h hh' _ => simp [hh] at hh'

theorem planned_eq (hp : r.header = none ∨ r.lineBreak ≠ []) : r.planned s = .ok (r.plan s) := by
  unfold planned
  rcases hp with hp | hp <;> simp [hp]

theorem planned_of_no_lineBreak (hh : r.header ≠ none) (hb : r.lineBreak = []) :
    r.planned s = .error .noLineBreak := by
  unfold planned
  rw [Option.ne_none_iff_isSome] at hh
  simp [hh, hb]

theorem insertion_eq {h : Text} (hh : r.header = some h) (hb : r.lineBreak ≠ [])
    (below : Text) : r.insertion below = .ok (r.written h below) := by
  simp [insertion, hh, hb]

/-! ## What a plan leaves -/

/-- What an action leaves between the text above and the text below, in the place of the header
`e` that was there. -/
def Leaves (above e below : Text) : Action → Text → Prop
  | .none, new => new = e
  | .remove, new => new = []
  | .insert, new | .replace, new =>
    ∃ w, r.insertion below = .ok w ∧
      new = (if above = [] ∨ Text.endsLine above = true then [] else r.lineBreak) ++ w

/-- A plan changes nothing but the header that is there, which is a header by itself and the first
tokens of the document below the skipped part. There is a plan unless the rule has a header to
write and no line break. -/
theorem planned_conserves :
    (r.header ≠ none ∧ r.lineBreak = [] ∧ r.planned s = .error .noLineBreak) ∨
    ∃ (p : Plan) (e below new : Text), r.planned s = .ok p ∧
      e = r.existing (s.drop (r.above s).length) ∧ s = r.above s ++ e ++ below ∧
      p.source = s ∧ p.above = r.above s ∧ (p.deleted = [] ∨ p.deleted = e) ∧
      p.result = r.above s ++ new ++ below ∧ r.Leaves (r.above s) e below p.action new ∧
      r.style.isHeader e = true ∧
      (r.style.run 0 e).tokens <+: (r.style.run 0 (s.drop (r.above s).length)).tokens := by
  by_cases hp : r.header = none ∨ r.lineBreak ≠ []
  · have hok := r.planned_eq s hp
    have hplan := r.plans_plan s
    generalize r.plan s = p at hok hplan
    have hbody := r.existing_append_rest (r.body s)
    have hs : s = r.above s ++ r.existing (r.body s) ++ r.rest (r.body s) := by
      rw [List.append_assoc, hbody, above_append_body]
    have hheader := r.isHeader_existing (r.body s)
    have htokens := r.tokens_existing_prefix (r.body s)
    cases hplan with
    | keep h =>
      refine Or.inr ⟨_, _, r.rest (r.body s), r.existing (r.body s), hok, rfl, hs, ?_, rfl,
        Or.inl rfl, ?_, rfl, hheader, htokens⟩
      · rw [Plan.source, List.append_nil, above_append_body]
      · rw [Plan.result, List.append_nil, List.append_assoc, hbody]
    | remove hh he =>
      exact Or.inr ⟨_, _, r.rest (r.body s), [], hok, rfl, hs, hs.symm, rfl, Or.inr rfl, rfl,
        rfl, hheader, htokens⟩
    | write h hh he =>
      have hb : r.lineBreak ≠ [] := hp.resolve_left (by simp [hh])
      refine Or.inr ⟨_, _, r.rest (r.body s), _, hok, rfl, hs, hs.symm, rfl, Or.inr rfl, rfl,
        ?_, hheader, htokens⟩
      have hw := r.insertion_eq hh hb (r.rest (r.body s))
      by_cases hnil : r.existing (r.body s) = []
      · rw [if_pos hnil]
        exact ⟨_, hw, rfl⟩
      · rw [if_neg hnil]
        exact ⟨_, hw, rfl⟩
  · rw [not_or, not_not] at hp
    exact Or.inl ⟨hp.1, hp.2, r.planned_of_no_lineBreak s hp.1 hp.2⟩

end Letterhead.HeaderRule

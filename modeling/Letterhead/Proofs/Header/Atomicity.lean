import Letterhead.Proofs.Buffer.Edits
import Letterhead.Proofs.Header.History

/-
  Plans on buffers that refuse edits. Deletion and insertion are one attempt, and so is putting the
  document back: each is done, or one edit of it is refused (`Buffer.Attempted`). So the number of
  refused edits tells how a plan ends (`apply_ends`): with none of them it is carried out, with one
  the document is as it was before, and only with two the document can be another one, which the
  error then says. What stands above the document is never touched.
-/

namespace Letterhead

namespace Buffer

variable {b : Buffer} {above s t r : Text} {x : Except BufferError Unit × Buffer}

/-- How an attempt to turn a document into `t` ends: it is done, or an edit of it is refused, with
some document left. -/
inductive Attempted (b : Buffer) (above t : Text) : Except BufferError Unit × Buffer → Prop
  | done {b' : Buffer} (hb : b'.Holds above t) (hn : b.refusals = b'.refusals) :
      Attempted b above t (.ok (), b')
  | refused {b' : Buffer} {s : Text} {reason : String} (hb : b'.Holds above s)
      (hn : b.refusals = b'.refusals + 1) : Attempted b above t (.error (.refused reason), b')

/-- A deletion and the insertion behind it are one attempt. -/
theorem attempted_insert {start : Int} (hstart : start = above.length + t.length) (u : Text) :
    b.Edited above s (t ++ r) x →
      b.Attempted above (t ++ u ++ r)
        (match x with
          | (.error e, b) => (.error e, b)
          | (.ok (), b) => if u = [] then (.ok (), b) else b.insert start u) := by
  intro h
  cases h with
  | refused hb hn => exact .refused hb hn
  | @done b' hb hn =>
    dsimp only
    split
    next hu =>
      rw [hu, List.append_nil]
      exact .done hb hn
    next =>
      have hinsert := hb.edited_insert u
      rw [hb.start_eq, ← hstart] at hinsert
      generalize b'.insert start u = y at hinsert
      cases hinsert with
      | done hb' hn' => exact .done hb' (hn.trans hn')
      | refused hb' hn' => exact .refused hb' (hn.trans hn')

end Buffer

namespace Plan

variable {b : Buffer} {p : Plan} {above s : Text}

theorem edit_attempted (h : b.Holds above p.source) : b.Attempted above p.result (p.edit b) := by
  have hdelete : b.Edited above p.source (p.above ++ p.below)
      (if p.deleted = [] then (.ok (), b)
        else b.delete (b.start + p.above.length)
          (b.start + p.above.length + p.deleted.length)) := by
    split
    next hd =>
      refine .done ?_ rfl
      rw [source, hd, List.append_nil] at h
      exact h
    next => exact h.edited_delete
  have hstart : (b.start : Int) + p.above.length = above.length + p.above.length := by
    rw [h.start_eq]
  exact Buffer.attempted_insert hstart p.inserted hdelete

theorem restore_attempted (h : b.Holds above s) (document : Text) :
    (∃ b', restore document b = (true, b') ∧ b'.Holds above document ∧
        b.refusals = b'.refusals) ∨
      ∃ b' s', restore document b = (false, b') ∧ b'.Holds above s' ∧
        b.refusals = b'.refusals + 1 := by
  have hdelete : b.Edited above s [] (b.delete b.start b.text.length) := by
    have hwhole : b.Holds above ([] ++ s ++ []) := by simpa using h
    have hd := hwhole.edited_delete
    have hstop : ((b.start : Int) + ([] : Text).length + s.length) = b.text.length := by
      rw [h.text_eq, h.start_eq, List.length_append]
      simp
    rw [hstop] at hd
    simpa using hd
  unfold restore
  generalize b.delete b.start b.text.length = x at hdelete
  cases hdelete with
  | refused hb hn => exact Or.inr ⟨_, s, rfl, hb, hn⟩
  | @done b' hb hn =>
    have hempty : b'.Holds above ([] ++ []) := by simpa using hb
    have hinsert := hempty.edited_insert document
    simp only [List.length_nil, Int.natCast_zero, Int.add_zero, List.nil_append,
      List.append_nil] at hinsert
    dsimp only
    generalize b'.insert b'.start document = y at hinsert
    cases hinsert with
    | done hb' hn' => exact Or.inl ⟨_, rfl, hb', hn.trans hn'⟩
    | refused hb' hn' => exact Or.inr ⟨_, [], rfl, hb', by rw [hn, hn']⟩

/-- How carrying out a plan on the document `s` ends, with the number of edits that are refused
on the way. -/
inductive Ends (p : Plan) (above s : Text) : Nat → Except ApplyError Unit × Buffer → Prop
  | applied {b : Buffer} (hb : b.Holds above p.result) : Ends p above s 0 (.ok (), b)
  | restored {b : Buffer} {reason : String} (hb : b.Holds above s) :
      Ends p above s 1 (.error (.refused p.action (.refused reason) true), b)
  | lost {b : Buffer} {s' : Text} {reason : String} (hb : b.Holds above s') :
      Ends p above s 2 (.error (.refused p.action (.refused reason) false), b)

theorem apply_of_changedSince (hp : p.changes = true) (hb : b.document = .ok s)
    (hs : s ≠ p.source) : p.apply b = (.error .changedSince, b) := by
  unfold apply
  rw [hp, hb]
  simp [hs]

/-- The number of refused edits tells how a plan ends. -/
theorem apply_ends (hp : p.changes = false → p.result = p.source) (h : b.Holds above p.source) :
    ∃ n, b.refusals = (p.apply b).2.refusals + n ∧ p.Ends above p.source n (p.apply b) := by
  unfold apply
  cases hc : p.changes with
  | false => exact ⟨0, rfl, .applied (hp hc ▸ h)⟩
  | true =>
    have hattempt := edit_attempted h
    rw [h.document_eq]
    simp only [Bool.not_true, Bool.false_eq_true, if_false, ne_eq, not_true_eq_false]
    generalize p.edit b = x at hattempt
    cases hattempt with
    | done hb hn => exact ⟨0, hn, .applied hb⟩
    | @refused b' s' reason hb hn =>
      dsimp only
      rcases restore_attempted hb p.source with ⟨b'', hr, hb', hn'⟩ | ⟨b'', s'', hr, hb', hn'⟩
      · rw [hr]
        exact ⟨1, by rw [hn, hn'], .restored hb'⟩
      · rw [hr]
        exact ⟨2, by rw [hn, hn'], .lost hb'⟩

end Plan

/-! ## What the error says -/

/-- The remark about a document that is left as another one. -/
def lostRemark : Text := "(document could not be restored)".toList

namespace ApplyError

variable {action : Action} {reason : String}

theorem message_restored :
    (refused action (.refused reason) true).message =
      "header " ++ action.label ++ " failed: " ++ reason :=
  String.append_empty

theorem message_lost :
    (refused action (.refused reason) false).message =
      "header " ++ action.label ++ " failed: " ++ reason ++ " (document could not be restored)" :=
  rfl

/-- The remark stands in the message about a restored document only if the reason of the refusal
brings it along. -/
theorem lostRemark_restored
    (h : lostRemark <:+: (refused action (.refused reason) true).message.toList) :
    lostRemark <:+: reason.toList := by
  rw [message_restored, String.toList_append] at h
  -- The remark begins with a bracket, of which the words before the reason have none.
  have hwords : '(' ∉ ("header " ++ action.label ++ " failed: ").toList := by
    cases action <;> decide
  generalize ("header " ++ action.label ++ " failed: ").toList = words at h hwords
  induction words with
  | nil => exact h
  | cons c words ih =>
    rw [List.mem_cons, not_or] at hwords
    rcases List.infix_cons_iff.1 h with hbegin | hbehind
    · obtain ⟨rest, hrest⟩ := hbegin
      exact absurd (List.cons.inj hrest).1 hwords.1
    · exact ih hbehind hwords.2

theorem lostRemark_lost :
    lostRemark <:+: (refused action (.refused reason) false).message.toList := by
  have hremark : lostRemark <:+ " (document could not be restored)".toList := ⟨[' '], by decide⟩
  rw [message_lost, String.toList_append]
  exact (hremark.trans (List.suffix_append _ _)).isInfix

end ApplyError

namespace HeaderRule

/-- A plan on a buffer that refuses edits ends in one of three ways, by the number of edits that
are refused. With none of them the document is the result of the plan. With one, the document is
what it was, and the error does not say otherwise. With two, the error says that the document could
not be restored. What stands above the document stays in each case. On a buffer with another
document the plan changes nothing. -/
theorem apply_atomic (r : HeaderRule) {b : Buffer} {s : Text} {p : Plan}
    (hb : b.document = .ok s) (hp : r.planned s = .ok p) :
    ((p.apply b).2.start = b.start ∧ (p.apply b).2.text.take b.start = b.text.take b.start) ∧
    (∃ n, b.refusals = (p.apply b).2.refusals + n ∧
      (n = 0 ∧ (p.apply b).1 = .ok () ∧ (p.apply b).2.document = .ok p.result ∨
        n = 1 ∧ (p.apply b).2.document = .ok s ∧ (∃ reason,
          (p.apply b).1 = .error (.refused p.action (.refused reason) true) ∧
            (lostRemark <:+: (ApplyError.refused p.action (.refused reason) true).message.toList →
              lostRemark <:+: reason.toList)) ∨
        n = 2 ∧ ∃ reason,
          (p.apply b).1 = .error (.refused p.action (.refused reason) false) ∧
            lostRemark <:+:
              (ApplyError.refused p.action (.refused reason) false).message.toList)) ∧
    ∀ (c : Buffer) (t : Text), c.document = .ok t → t ≠ s → p.changes = true →
      p.apply c = (.error .changedSince, c) := by
  have hplan : p = r.plan s := by
    unfold planned at hp
    split at hp
    · cases hp
    · exact (Except.ok.inj hp).symm
  have hsource : p.source = s := by rw [hplan, source_plan]
  have hidle : p.changes = false → p.result = p.source := by
    rw [hplan, source_plan]
    exact r.result_plan_of_not_changes s
  have hholds := Buffer.holds_of_document hb
  rw [← hsource] at hholds
  obtain ⟨n, hn, hends⟩ := p.apply_ends hidle hholds
  have habove : ∀ {after : Buffer} {t : Text}, after.Holds (b.text.take b.start) t →
      after.start = b.start ∧ after.text.take b.start = b.text.take b.start := by
    intro after t h
    have hstart : (b.text.take b.start).length = b.start := hholds.start_eq.symm
    refine ⟨h.start_eq.trans hstart, ?_⟩
    rw [h.text_eq, List.take_left' hstart]
  refine ⟨?_, ⟨n, hn, ?_⟩, fun c t hc ht hchanges =>
    p.apply_of_changedSince hchanges hc (hsource.symm ▸ ht)⟩
  · generalize p.apply b = done at hends
    cases hends with
    | applied h => exact habove h
    | restored h => exact habove h
    | lost h => exact habove h
  · generalize p.apply b = done at hends
    cases hends with
    | applied h => exact Or.inl ⟨rfl, rfl, h.document_eq⟩
    | restored h =>
      refine Or.inr (Or.inl ⟨rfl, ?_, _, rfl, ApplyError.lostRemark_restored⟩)
      rw [h.document_eq, hsource]
    | lost h => exact Or.inr (Or.inr ⟨rfl, _, rfl, ApplyError.lostRemark_lost⟩)

/-- A buffer that refuses the insertion of a license line, after the one that was there has been
deleted, and then puts the document back, below three characters that are not part of it. -/
theorem apply_atomic_over_refusal :
    let rule := Request.license.rule Language.BuiltIn.csharp.style LineBreak.lf.text
    let s := "// License: X\nclass A {}\n".toList
    let b : Buffer := {
      text := "###".toList ++ s, start := 3, lineBreak := LineBreak.lf.text
      insertRefusals := [some "simulated failure"] }
    b.document = .ok s ∧ rule.planned s = .ok (rule.plan s) ∧
      ((rule.plan s).apply b).1 =
        .error (.refused .replace (.refused "simulated failure") true) ∧
      ((rule.plan s).apply b).2.document = .ok s ∧
      ((rule.plan s).apply b).2.text.take 3 = "###".toList := by
  intro rule s b
  have hb : b.document = .ok s := by decide +kernel
  have hp : rule.planned s = .ok (rule.plan s) := rule.planned_eq s (Or.inr (List.cons_ne_nil _ _))
  have herror : ((rule.plan s).apply b).1 =
      .error (.refused .replace (.refused "simulated failure") true) := by decide +kernel
  obtain ⟨⟨-, habove⟩, ⟨n, -, hends⟩, -⟩ := rule.apply_atomic hb hp
  refine ⟨hb, hp, herror, ?_, habove.trans (by decide)⟩
  rcases hends with ⟨-, hok, -⟩ | ⟨-, hdocument, -⟩ | ⟨-, reason, hlost, -⟩
  · rw [herror] at hok
    cases hok
  · exact hdocument
  · rw [herror] at hlost
    simp at hlost

end HeaderRule
end Letterhead

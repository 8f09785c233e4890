import Letterhead.Text.Blank
import Letterhead.Text.LineBreak
import Mathlib.Data.List.TakeWhile

/-
  Cuts and what stands behind them. A cut of a text (past a line break, past a line, at the nearest
  occurrence of a mark) stays where it is when the text behind it is shortened. When a line break
  is written behind the text, the cut stays too, unless it took everything: then it takes that
  line break as well, or the text ends with CR and the line break begins with LF.
-/

namespace Letterhead

theorem isBlank_of_isBreakChar {c : Char} (h : isBreakChar c = true) : isBlank c = true := by
  simp only [isBreakChar, Bool.or_eq_true, beq_iff_eq] at h
  rcases h with rfl | rfl <;> rfl

theorem isBreakChar_of_isBlank {c : Char} (h : isBlank c = false) : isBreakChar c = false := by
  rw [Bool.eq_false_iff]
  intro hc
  rw [isBlank_of_isBreakChar hc] at h
  cases h

namespace LineBreak

variable {b : LineBreak} {s r x : Text}

theorem isBreakChar_of_mem_text {c : Char} (h : c ∈ b.text) : isBreakChar c = true := by
  cases b <;> simp only [text, List.mem_cons, List.not_mem_nil, or_false] at h
  · rcases h with rfl | rfl <;> rfl
  · rw [h]; rfl
  · rw [h]; rfl

theorem take?_eq_none {c : Char} (h : isBreakChar c = false) (s : Text) :
    take? (c :: s) = none := by
  unfold take?
  split <;> simp_all [isBreakChar]

theorem exists_take?_cons {c : Char} (h : isBreakChar c = true) (s : Text) :
    ∃ b r, take? (c :: s) = some (b, r) := by
  simp only [isBreakChar, Bool.or_eq_true, beq_iff_eq] at h
  unfold take?
  split <;> simp_all

/-- The line break itself comes off its text, unless CR stands before LF. -/
theorem take?_text_append (h : b ≠ .cr ∨ s.head? ≠ some '\n') :
    take? (b.text ++ s) = some (b, s) := by
  cases b with
  | crlf => rfl
  | lf => rfl
  | cr =>
    cases s with
    | nil => rfl
    | cons c s =>
      have hc : c ≠ '\n' := by simpa using h
      simp only [text, List.cons_append, List.nil_append]
      unfold take?
      split <;> simp_all

theorem cr_lf_apart (h : take? (b.text ++ r) = some (b, r)) :
    b ≠ .cr ∨ r.head? ≠ some '\n' := by
  by_contra hc
  simp only [ne_eq, not_or, not_not] at hc
  obtain ⟨rfl, hr⟩ := hc
  cases r with
  | nil => simp at hr
  | cons c r =>
    obtain rfl : c = '\n' := by simpa using hr
    simp [text, take?] at h

theorem take?_shorten {r' : Text} (h : take? (b.text ++ r) = some (b, r)) (hr : r' <+: r) :
    take? (b.text ++ r') = some (b, r') := by
  refine take?_text_append ((cr_lf_apart h).imp_right fun hne hc => hne ?_)
  obtain ⟨z, rfl⟩ := hr
  cases r' with
  | nil => simp at hc
  | cons c r' => simpa using hc

/-- A line break followed by another one: they stay two, or CR and LF become one. -/
theorem take?_extend {b' : LineBreak} {r' : Text} (h : take? (b.text ++ r) = some (b, r))
    (hx : take? x = some (b', r')) :
    take? (b.text ++ (r ++ x)) = some (b, r ++ x) ∨
      r = [] ∧ ∃ b₂ : LineBreak, b₂.text = b.text ++ b'.text ∧
        take? (b.text ++ x) = some (b₂, r') ∧ b₂.text ++ r' = b.text ++ x := by
  by_cases hm : b ≠ .cr ∨ (r ++ x).head? ≠ some '\n'
  · exact Or.inl (take?_text_append hm)
  simp only [ne_eq, not_or, not_not] at hm
  obtain ⟨rfl, hhead⟩ := hm
  have hr : r = [] := by
    cases r with
    | nil => rfl
    | cons c r => exact absurd (by simpa using hhead) ((cr_lf_apart h).resolve_left (by simp))
  subst hr
  cases x with
  | nil => simp at hhead
  | cons c x =>
    obtain rfl : c = '\n' := by simpa using hhead
    simp only [take?, Option.some.injEq, Prod.mk.injEq] at hx
    obtain ⟨rfl, rfl⟩ := hx
    exact Or.inr ⟨rfl, .crlf, rfl, rfl, rfl⟩

/-- A text that begins with a line break has one to take. -/
theorem exists_take?_append (b : LineBreak) (s : Text) :
    (take? (b.text ++ s) = some (b, s)) ∨
      b = .cr ∧ ∃ r, s = '\n' :: r ∧ take? (b.text ++ s) = some (.crlf, r) := by
  by_cases hm : b ≠ .cr ∨ s.head? ≠ some '\n'
  · exact Or.inl (take?_text_append hm)
  simp only [ne_eq, not_or, not_not] at hm
  obtain ⟨rfl, hs⟩ := hm
  cases s with
  | nil => simp at hs
  | cons c s =>
    obtain rfl : c = '\n' := by simpa using hs
    exact Or.inr ⟨rfl, s, rfl, rfl⟩

theorem head_of_take? (h : take? s = some (b, r)) :
    ∃ c s', s = c :: s' ∧ isBreakChar c = true := by
  rw [eq_of_take? h]
  cases b <;> exact ⟨_, _, rfl, rfl⟩

end LineBreak

namespace Text

/-- A text within one line. -/
def Unbroken (s : Text) : Prop := ∀ c ∈ s, isBreakChar c = false

instance (s : Text) : Decidable (Unbroken s) := List.decidableBAll _ s

theorem unbroken_nil : Unbroken [] := by simp [Unbroken]

theorem unbroken_cons {c : Char} {s : Text} :
    Unbroken (c :: s) ↔ isBreakChar c = false ∧ Unbroken s := by simp [Unbroken]

theorem Unbroken.append {s r : Text} (hs : Unbroken s) (hr : Unbroken r) : Unbroken (s ++ r) :=
  fun c hc => (List.mem_append.1 hc).elim (hs c) (hr c)

theorem beginsWith_iff {mark s : Text} : beginsWith mark s = true ↔ mark <+: s := by
  unfold beginsWith
  rw [Option.isSome_iff_exists]
  constructor
  · rintro ⟨r, hr⟩
    exact ⟨r, (eq_of_after? hr).symm⟩
  · rintro ⟨r, rfl⟩
    exact ⟨r, after?_append mark r⟩

/-! ## Lines -/

theorem cutLine_cons {c : Char} (h : isBreakChar c = false) (s : Text) :
    cutLine (c :: s) = (c :: (cutLine s).1, (cutLine s).2) := by
  rw [cutLine.eq_def]
  split <;> simp_all [isBreakChar]

theorem cutLine_unbroken {s : Text} (h : Unbroken s) : cutLine s = (s, []) := by
  induction s with
  | nil => rfl
  | cons c s ih =>
    rw [unbroken_cons] at h
    rw [cutLine_cons h.1, ih h.2]

theorem cutLine_of_take? {w s r : Text} {b : LineBreak} (hw : Unbroken w)
    (hs : LineBreak.take? s = some (b, r)) : cutLine (w ++ s) = (w ++ b.text, r) := by
  induction w with
  | nil =>
    unfold LineBreak.take? at hs
    split at hs <;> simp_all [cutLine, LineBreak.text]
    all_goals (obtain ⟨rfl, rfl⟩ := hs; simp)
  | cons c w ih =>
    rw [unbroken_cons] at hw
    rw [List.cons_append, cutLine_cons hw.1, ih hw.2]
    rfl

/-- A line either reaches to the end of the text or ends with a line break. -/
theorem cutLine_cases (s : Text) :
    (Unbroken s ∧ cutLine s = (s, [])) ∨
      ∃ (w : Text) (b : LineBreak) (r : Text), Unbroken w ∧ s = w ++ (b.text ++ r) ∧
        LineBreak.take? (b.text ++ r) = some (b, r) ∧ cutLine s = (w ++ b.text, r) := by
  induction s with
  | nil => exact Or.inl ⟨unbroken_nil, rfl⟩
  | cons c s ih =>
    cases hc : isBreakChar c with
    | true =>
      obtain ⟨b, r, hb⟩ := LineBreak.exists_take?_cons hc s
      have hs := LineBreak.eq_of_take? hb
      exact Or.inr ⟨[], b, r, unbroken_nil, hs, hs ▸ hb, cutLine_of_take? unbroken_nil hb⟩
    | false =>
      rcases ih with ⟨hu, -⟩ | ⟨w, b, r, hw, rfl, hb, -⟩
      · have hu' := unbroken_cons.2 ⟨hc, hu⟩
        exact Or.inl ⟨hu', cutLine_unbroken hu'⟩
      · have hw' := unbroken_cons.2 ⟨hc, hw⟩
        exact Or.inr ⟨c :: w, b, r, hw', rfl, hb, cutLine_of_take? hw' hb⟩

theorem cutLine_shorten {l r r' : Text} (h : cutLine (l ++ r) = (l, r)) (hr : r' <+: r) :
    cutLine (l ++ r') = (l, r') := by
  rcases cutLine_cases (l ++ r) with ⟨hu, hc⟩ | ⟨w, b, r₀, hw, -, hb, hc⟩
  · rw [h, Prod.mk.injEq] at hc
    obtain rfl : r = [] := hc.2
    obtain rfl : r' = [] := List.prefix_nil.1 hr
    exact h
  · rw [h, Prod.mk.injEq] at hc
    obtain ⟨rfl, rfl⟩ := hc
    rw [List.append_assoc]
    exact cutLine_of_take? hw (LineBreak.take?_shorten hb hr)

theorem cutLine_extend {s l r x r' : Text} {b' : LineBreak} (h : cutLine s = (l, r))
    (hx : LineBreak.take? x = some (b', r')) :
    cutLine (s ++ x) = (l, r ++ x) ∨ r = [] ∧ cutLine (s ++ x) = (l ++ b'.text, r') := by
  rcases cutLine_cases s with ⟨hu, hc⟩ | ⟨w, b, r₀, hw, rfl, hb, hc⟩
  · rw [h, Prod.mk.injEq] at hc
    obtain ⟨rfl, rfl⟩ := hc
    exact Or.inr ⟨rfl, cutLine_of_take? hu hx⟩
  · rw [h, Prod.mk.injEq] at hc
    obtain ⟨rfl, rfl⟩ := hc
    rw [List.append_assoc, List.append_assoc]
    rcases LineBreak.take?_extend hb hx with he | ⟨rfl, b₂, hb₂, he, -⟩
    · exact Or.inl (cutLine_of_take? hw he)
    · refine Or.inr ⟨rfl, ?_⟩
      rw [List.nil_append, cutLine_of_take? hw he, hb₂, List.append_assoc]

/-! ## Occurrences -/

/-- The nearest occurrence of a mark does not depend on what stands behind it. -/
theorem cutAt?_congr {mark l r : Text} (h : cutAt? mark (l ++ (mark ++ r)) = some (l, r))
    (r' : Text) : cutAt? mark (l ++ (mark ++ r')) = some (l, r') := by
  induction l with
  | nil =>
    rw [List.nil_append]
    cases hs : mark ++ r' with
    | nil =>
      obtain ⟨rfl, rfl⟩ := List.append_eq_nil_iff.1 hs
      rfl
    | cons c s =>
      unfold cutAt?
      rw [← hs, after?_append]
  | cons c l ih =>
    rw [List.cons_append] at h ⊢
    have hnone : after? mark (c :: (l ++ (mark ++ r))) = none := by
      unfold cutAt? at h
      split at h
      · simp at h
      · assumption
    have hl : cutAt? mark (l ++ (mark ++ r)) = some (l, r) := by
      unfold cutAt? at h
      rw [hnone] at h
      obtain ⟨⟨l', r''⟩, hl, he⟩ := Option.map_eq_some_iff.1 h
      simp only [Prod.mk.injEq, List.cons.injEq, true_and] at he
      rw [hl, he.1, he.2]
    -- An earlier occurrence would lie within the text up to the mark, whatever follows.
    have hnone' : after? mark (c :: (l ++ (mark ++ r'))) = none := by
      cases hs : after? mark (c :: (l ++ (mark ++ r'))) with
      | none => rfl
      | some z =>
        have hp : mark <+: c :: l ++ mark := by
          refine List.prefix_of_prefix_length_le ⟨z, (eq_of_after? hs).symm⟩ ⟨r', by simp⟩ ?_
          simp only [List.length_append, List.length_cons]
          omega
        obtain ⟨y, hy⟩ := hp
        have : after? mark (c :: (l ++ (mark ++ r))) = some (y ++ r) := by
          rw [after?_eq_some_iff, ← List.append_assoc mark y r, hy]
          simp
        rw [hnone] at this
        cases this
    unfold cutAt?
    rw [hnone', ih hl]
    rfl

end Text
end Letterhead

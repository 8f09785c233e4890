import Letterhead.Text.Lower
import Letterhead.Text.LineBreak

/-
  Lower case in context. Only a capital sigma looks at the text around it, and never past a line
  break, so what stands before a line break has the same lower case whatever follows
  (`lower_prefix_append`). A keyword that is found in a text is then found in every continuation of
  it on further lines (`hasPart_lower_append`). What stands behind other text keeps its lower case
  when it has no capital sigma (`exists_lower_append`).
-/

namespace Letterhead

theorem CodeSet.contains_eq (s : CodeSet) (n : Nat) :
    s.contains n = (s.changes.toList.countP (· ≤ n) % 2 == 1) := by
  rw [CodeSet.contains, Array.countP_toList]

theorem contains_of_isBreakChar {c : Char} (hc : isBreakChar c = true) :
    caseIgnorableCodes.contains c.toNat = false ∧ casedCodes.contains c.toNat = false := by
  simp only [isBreakChar, Bool.or_eq_true, beq_iff_eq] at hc
  rw [CodeSet.contains_eq, CodeSet.contains_eq]
  rcases hc with rfl | rfl <;> decide +kernel

theorem endsCased_of_isBreakChar {c : Char} (hc : isBreakChar c = true) (s : Text) :
    endsCased (c :: s) = false := by
  have h := contains_of_isBreakChar hc
  simp only [endsCased, h.1, h.2, if_false, Bool.false_eq_true]

/-- Whether a cased letter follows does not depend on the lines below. -/
theorem endsCased_append {t : Text} (ht : ∀ c ∈ t.head?, isBreakChar c = true) (s : Text) :
    endsCased (s ++ t) = endsCased s := by
  induction s with
  | nil =>
    cases t with
    | nil => rfl
    | cons c t => exact endsCased_of_isBreakChar (ht c rfl) t
  | cons c s ih => simp only [List.cons_append, endsCased, ih]

namespace Text

theorem lowerAt_of_ne {c : Char} (hc : c ≠ 'Σ') (before before' s s' : Text) :
    lowerAt before c s = lowerAt before' c s' := by
  simp [lowerAt, hc]

/-- What follows a line break does not change the lower case of what stands before. -/
theorem lowerFrom_append_of_break {t : Text} (ht : ∀ c ∈ t.head?, isBreakChar c = true)
    (before s : Text) :
    lowerFrom before (s ++ t) = lowerFrom before s ++ lowerFrom (s.reverse ++ before) t := by
  induction s generalizing before with
  | nil => simp [lowerFrom]
  | cons c s ih =>
    have hat : lowerAt before c (s ++ t) = lowerAt before c s := by
      simp only [lowerAt, endsCased_append ht]
    rw [List.cons_append, lowerFrom, lowerFrom, ih, hat, List.reverse_cons, List.append_assoc,
      List.append_assoc, List.singleton_append]

theorem lower_prefix_append {t : Text} (ht : ∀ c ∈ t.head?, isBreakChar c = true) (s : Text) :
    lower s <+: lower (s ++ t) := by
  rw [lower, lower, lowerFrom_append_of_break ht]
  exact List.prefix_append _ _

/-! ## Searching -/

theorem hasPart_iff {mark s : Text} : hasPart mark s = true ↔ mark <:+: s := by
  unfold hasPart
  induction s with
  | nil => by_cases hm : mark = [] <;> simp [cutAt?, hm]
  | cons c s ih =>
    rw [List.infix_cons_iff, ← ih, cutAt?]
    cases hs : after? mark (c :: s) with
    | some r =>
      have hbegins : mark <+: c :: s := ⟨r, (eq_of_after? hs).symm⟩
      simp [hbegins]
    | none =>
      have hbegins : ¬ mark <+: c :: s := by
        rintro ⟨r, hr⟩
        rw [← hr, after?_append] at hs
        cases hs
      simp [hbegins]

theorem hasPart_lower_append {mark s t : Text} (ht : ∀ c ∈ t.head?, isBreakChar c = true)
    (h : hasPart mark (lower s) = true) : hasPart mark (lower (s ++ t)) = true := by
  rw [hasPart_iff] at h ⊢
  exact h.trans (lower_prefix_append ht s).isInfix

/-! ## Behind other text -/

theorem lowerFrom_of_no_sigma {s : Text} (hs : 'Σ' ∉ s) (before : Text) :
    lowerFrom before s = lower s := by
  unfold lower
  generalize ([] : Text) = before'
  induction s generalizing before before' with
  | nil => rfl
  | cons c s ih =>
    rw [List.mem_cons, not_or] at hs
    rw [lowerFrom, lowerFrom, lowerAt_of_ne (Ne.symm hs.1) before before' s s,
      ih hs.2 (c :: before) (c :: before')]

theorem exists_lowerFrom_append (before s t : Text) :
    ∃ x, lowerFrom before (s ++ t) = x ++ lowerFrom (s.reverse ++ before) t := by
  induction s generalizing before with
  | nil => exact ⟨[], by simp⟩
  | cons c s ih =>
    obtain ⟨x, hx⟩ := ih (c :: before)
    refine ⟨lowerAt before c (s ++ t) ++ x, ?_⟩
    rw [List.cons_append, lowerFrom, hx, List.reverse_cons, List.append_assoc, List.append_assoc,
      List.singleton_append]

/-- A text without a capital sigma has its own lower case behind any other text. -/
theorem exists_lower_append {t : Text} (ht : 'Σ' ∉ t) (s : Text) :
    ∃ x, lower (s ++ t) = x ++ lower t := by
  obtain ⟨x, hx⟩ := exists_lowerFrom_append [] s t
  exact ⟨x, by rw [lower, hx, lowerFrom_of_no_sigma ht]⟩

/-- A capital sigma leaves one of its small forms behind. -/
theorem sigma_mem_lowerFrom {s : Text} (hs : 'Σ' ∈ s) (before : Text) :
    'σ' ∈ lowerFrom before s ∨ 'ς' ∈ lowerFrom before s := by
  induction s generalizing before with
  | nil => cases hs
  | cons c s ih =>
    rw [lowerFrom]
    rcases List.mem_cons.1 hs with rfl | hs
    · have hat : 'σ' ∈ lowerAt before 'Σ' s ∨ 'ς' ∈ lowerAt before 'Σ' s := by
        unfold lowerAt
        rw [if_pos (by decide)]
        split <;> simp
      exact hat.imp (List.mem_append_left _) (List.mem_append_left _)
    · exact (ih hs (c :: before)).imp (List.mem_append_right _) (List.mem_append_right _)

end Text
end Letterhead

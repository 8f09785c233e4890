import Letterhead.Proofs.Text.SetBreaks

/-
  Texts with their line breaks in one normal form. To write every line break as `lb` keeps the
  number of line breaks and makes all of them `lb`, since no two that are written side by side run
  together (`countBreaks_setLineBreaks`). So only the last of several rewritings counts
  (`setLineBreaks_setLineBreaks`), and a text with line breaks has the most frequent one that it was
  rewritten to (`dominantBreak_setLineBreaks`). For any text that one is told by counts and the
  order CRLF, LF, CR (`dominantBreak_eq_iff_prevails`).
-/

namespace Letterhead.Text

variable {lb b : LineBreak} {s r : Text}

/-! ## Counting -/

/-- The number of line breaks of a text, of all three kinds. -/
def breakTotal (s : Text) : Nat := countBreaks .crlf s + countBreaks .lf s + countBreaks .cr s

theorem countBreaks_cons {c : Char} (hc : isBreakChar c = false) (b : LineBreak) (s : Text) :
    countBreaks b (c :: s) = countBreaks b s := by
  rw [countBreaks, pieces_cons hc, List.count_cons_of_ne (by simp)]
  rfl

theorem countBreaks_of_take? (h : LineBreak.take? s = some (b, r)) (b' : LineBreak) :
    countBreaks b' s = countBreaks b' r + if b = b' then 1 else 0 := by
  rw [countBreaks, pieces_of_take? h, List.count_cons]
  simp [countBreaks]

theorem breakTotal_of_take? (h : LineBreak.take? s = some (b, r)) :
    breakTotal s = breakTotal r + 1 := by
  simp only [breakTotal, countBreaks_of_take? h]
  cases b <;> simp <;> omega

theorem countBreaks_le_breakTotal (b : LineBreak) (s : Text) : countBreaks b s ≤ breakTotal s := by
  unfold breakTotal
  cases b <;> omega

theorem exists_countBreaks_pos_iff (s : Text) : (∃ b, 0 < countBreaks b s) ↔ breakTotal s ≠ 0 := by
  constructor
  · rintro ⟨b, hb⟩
    have hle := countBreaks_le_breakTotal b s
    omega
  · intro hs
    by_contra hnone
    have hzero : ∀ b, countBreaks b s = 0 := by
      intro b
      by_contra hb
      exact hnone ⟨b, Nat.pos_of_ne_zero hb⟩
    exact hs (by simp [breakTotal, hzero])

/-! ## Rewriting -/

/-- Behind a line break that was written come only line breaks of its own kind, so it is read back
as it was written. -/
theorem take?_setLineBreaks_of_take? (lb : LineBreak) (h : LineBreak.take? s = some (b, r)) :
    LineBreak.take? (setLineBreaks lb.text s) = some (lb, setLineBreaks lb.text r) := by
  rw [take?_setLineBreaks, h]
  rfl

theorem setLineBreaks_setLineBreaks (lb lb' : LineBreak) (s : Text) :
    setLineBreaks lb'.text (setLineBreaks lb.text s) = setLineBreaks lb'.text s := by
  induction s using piece_induction with
  | nil => rfl
  | char c s hc ih => rw [setLineBreaks_cons hc, setLineBreaks_cons hc, setLineBreaks_cons hc, ih]
  | lineBreak s b r hb ih =>
    have htake := take?_setLineBreaks_of_take? lb hb
    rw [setLineBreaks_of_take? htake, setLineBreaks_of_take? hb, ih]

theorem countBreaks_setLineBreaks (lb b : LineBreak) (s : Text) :
    countBreaks b (setLineBreaks lb.text s) = if b = lb then breakTotal s else 0 := by
  split
  next heq =>
    subst heq
    induction s using piece_induction with
    | nil => rfl
    | char c s hc ih =>
      have htotal : breakTotal (c :: s) = breakTotal s := by
        simp only [breakTotal, countBreaks_cons hc]
      rw [setLineBreaks_cons hc, countBreaks_cons hc, ih, htotal]
    | lineBreak s b' r hb ih =>
      have htake := take?_setLineBreaks_of_take? b hb
      rw [countBreaks_of_take? htake, ih, if_pos rfl, breakTotal_of_take? hb]
  next hne => exact (hasOnly_setLineBreaks lb s).countBreaks_eq_zero hne

theorem breakTotal_setLineBreaks (lb : LineBreak) (s : Text) :
    breakTotal (setLineBreaks lb.text s) = breakTotal s := by
  unfold breakTotal
  rw [countBreaks_setLineBreaks, countBreaks_setLineBreaks, countBreaks_setLineBreaks]
  cases lb <;> simp [breakTotal]

/-! ## The most frequent line break -/

/-- LF stands for a text without line breaks; any other text has the one that prevails. -/
theorem dominantBreak_eq_iff_prevails (lb : LineBreak) (s : Text) :
    dominantBreak s = lb ↔ if breakTotal s = 0 then lb = .lf else Prevails lb s := by
  split
  next hnone =>
    have hzero : ∀ b, countBreaks b s = 0 := by
      intro b
      have hle := countBreaks_le_breakTotal b s
      omega
    rw [dominantBreak_eq_lf hzero]
    exact eq_comm
  next hsome =>
    obtain ⟨b, hb⟩ := (exists_countBreaks_pos_iff s).2 hsome
    exact dominantBreak_eq_iff hb

theorem prevails_setLineBreaks (lb : LineBreak) (hs : breakTotal s ≠ 0) :
    Prevails lb (setLineBreaks lb.text s) := by
  intro b hb
  have hcount := countBreaks_setLineBreaks lb b s
  have htotal := countBreaks_setLineBreaks lb lb s
  rw [if_neg hb] at hcount
  rw [if_pos rfl] at htotal
  apply Or.inl
  omega

theorem dominantBreak_setLineBreaks (lb : LineBreak) (s : Text) :
    dominantBreak (setLineBreaks lb.text s) = if breakTotal s = 0 then .lf else lb := by
  rw [dominantBreak_eq_iff_prevails, breakTotal_setLineBreaks]
  split
  next => rfl
  next hsome => exact prevails_setLineBreaks lb hsome

/-- Line breaks that are written in one way and then in another are as if written in the other way
at once. A rewritten text has as many line breaks as before, all of the kind that was written, and
that kind is its most frequent one if it has any. The most frequent line break of any text is the
one of greatest number, the earliest of CRLF, LF and CR among equals, and LF where there is none. -/
theorem lineBreaks_normal_form (s : Text) (lb lb' : LineBreak) :
    setLineBreaks lb'.text (setLineBreaks lb.text s) = setLineBreaks lb'.text s ∧
      (∀ b, countBreaks b (setLineBreaks lb.text s) = if b = lb then breakTotal s else 0) ∧
      dominantBreak (setLineBreaks lb.text s) = (if breakTotal s = 0 then .lf else lb) ∧
      (dominantBreak s = lb ↔ if breakTotal s = 0 then lb = .lf else
        ∀ b ≠ lb, countBreaks b s < countBreaks lb s ∨
          countBreaks b s = countBreaks lb s ∧ lb.place < b.place) :=
  ⟨setLineBreaks_setLineBreaks lb lb' s, fun b => countBreaks_setLineBreaks lb b s,
    dominantBreak_setLineBreaks lb s, dominantBreak_eq_iff_prevails lb s⟩

/-- CR, CR, LF are two line breaks, and LF, CR are two as well. -/
example : setLineBreaks LineBreak.crlf.text "a\r\r\nb\n\r".toList = "a\r\n\r\nb\r\n\r\n".toList ∧
    breakTotal "a\r\r\nb\n\r".toList = 4 := by decide

end Letterhead.Text

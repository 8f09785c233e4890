import Letterhead.Ansi.Style
import Letterhead.Proofs.Text.Marks
import Mathlib.Data.List.Infix

/-
  Texts in styles. A text without line feeds gets none from the sequences that are written into it,
  so it stays one line (`lf_notMem_paint`), and a text without sequences of its own just has those
  of the style before and after it (`paint_of_plain`). This and that a style is switched on first is
  all that is relied on of a painter (`Painter.Sound`): what a painted text begins with tells its
  style from others with opening sequences of the same length (`Painter.Sound.opening_eq`).
-/

namespace Letterhead.Ansi

variable {st st' : Style} {opening closing s s' : Text} {c : Char}

/-! ## Sequences -/

theorem lf_notMem_sequence (n : Nat) : '\n' ∉ sequence n := by
  intro h
  simp only [sequence, List.cons_append, List.mem_cons, List.mem_append] at h
  rcases h with h | h | h | h
  · cases h
  · cases h
  · have hdigit := Nat.isDigit_of_mem_toDigits (by decide) (by decide) h
    revert hdigit
    decide
  · revert h
    decide

theorem escape_mem_sequence (n : Nat) : '\x1b' ∈ sequence n := List.mem_cons_self

theorem sequence_ne_nil (n : Nat) : sequence n ≠ [] := List.cons_ne_nil _ _

theorem not_infix_of_plain (h : '\x1b' ∉ s) (n : Nat) : ¬ sequence n <:+: s := fun hin =>
  h (hin.subset (escape_mem_sequence n))

theorem lf_notMem_opening (st : Style) : '\n' ∉ st.opening := by
  intro h
  obtain ⟨a, -, h⟩ := List.mem_flatMap.1 h
  exact lf_notMem_sequence a.on h

theorem lf_notMem_closing (st : Style) : '\n' ∉ st.closing := by
  intro h
  obtain ⟨a, -, h⟩ := List.mem_flatMap.1 h
  exact lf_notMem_sequence a.off h

/-! ## Sequences that a text has already -/

theorem lf_notMem_reopened (h : '\n' ∉ s) : '\n' ∉ reopened st s := by
  unfold reopened
  induction st generalizing s with
  | nil => exact h
  | cons a st ih =>
    refine ih fun hmem => ?_
    rcases Text.mem_replaceAll hmem with hmem | hmem
    · rcases List.mem_append.1 hmem with hmem | hmem
      · exact lf_notMem_sequence a.off hmem
      · exact lf_notMem_sequence a.on hmem
    · exact h hmem

theorem reopened_of_plain (h : '\x1b' ∉ s) : reopened st s = s := by
  unfold reopened
  induction st with
  | nil => rfl
  | cons a st ih =>
    rw [List.foldl_cons, Text.replaceAll_of_not_infix (sequence_ne_nil a.off)
      (not_infix_of_plain h a.off), ih]

theorem mem_joinParts {parts : List Text} (h : c ∈ joinParts opening closing parts) :
    c ∈ opening ∨ c ∈ closing ∨ c ∈ reset ∨ ∃ p ∈ parts, c ∈ p := by
  fun_induction joinParts opening closing parts with
  | case1 => cases h
  | case2 s => exact Or.inr (Or.inr (Or.inr ⟨s, List.mem_cons_self, h⟩))
  | case3 s t =>
    simp only [List.mem_append] at h
    rcases h with (h | h) | h
    · exact Or.inr (Or.inr (Or.inr ⟨s, by simp, h⟩))
    · exact Or.inr (Or.inr (Or.inl h))
    · exact Or.inr (Or.inr (Or.inr ⟨t, by simp, h⟩))
  | case4 s t parts hparts ih =>
    simp only [List.mem_append] at h
    rcases h with (((((h | h) | h) | h) | h) | h) | h
    · exact Or.inr (Or.inr (Or.inr ⟨s, by simp, h⟩))
    · exact Or.inr (Or.inl h)
    · exact Or.inr (Or.inr (Or.inl h))
    · exact Or.inr (Or.inr (Or.inr ⟨t, by simp, h⟩))
    · exact Or.inr (Or.inr (Or.inl h))
    · exact Or.inl h
    · rcases ih h with h | h | h | ⟨p, hp, h⟩
      · exact Or.inl h
      · exact Or.inr (Or.inl h)
      · exact Or.inr (Or.inr (Or.inl h))
      · exact Or.inr (Or.inr (Or.inr ⟨p, by simp [hp], h⟩))

/-- A text without line feeds is one line. -/
theorem isolated_eq (h : '\n' ∉ s) :
    isolated opening closing s = joinParts opening closing (Text.splitOn reset s) := by
  have hline : Text.splitOn ['\n'] s = [s] :=
    Text.splitOn_of_not_infix (mt (List.singleton_infix_iff _ s).1 h)
  rw [isolated, hline]
  exact List.intercalate_singleton

theorem interrupted_eq (h : '\n' ∉ s) : interrupted opening closing s = s := by
  fun_induction interrupted opening closing s with
  | case1 => rfl
  | case2 s ih => simp at h
  | case3 s ih => simp at h
  | case4 c s hcr hlf ih => rw [ih fun hmem => h (List.mem_cons_of_mem c hmem)]

/-! ## Painted texts -/

theorem lf_notMem_isolated (h : '\n' ∉ s) : '\n' ∉ isolated st.opening st.closing s := by
  rw [isolated_eq h]
  intro hmem
  rcases mem_joinParts hmem with hmem | hmem | hmem | ⟨p, hp, hmem⟩
  · exact lf_notMem_opening st hmem
  · exact lf_notMem_closing st hmem
  · exact lf_notMem_sequence 0 hmem
  · exact h (Text.mem_of_mem_splitOn hp hmem)

theorem paint_eq (h : '\n' ∉ s) : paint st s =
    st.opening ++ isolated st.opening st.closing (reopened st s) ++ st.closing := by
  rw [paint, interrupted_eq (lf_notMem_isolated (lf_notMem_reopened h))]

theorem lf_notMem_paint (h : '\n' ∉ s) : '\n' ∉ paint st s := by
  rw [paint_eq h, List.mem_append, List.mem_append]
  rintro ((hmem | hmem) | hmem)
  · exact lf_notMem_opening st hmem
  · exact lf_notMem_isolated (lf_notMem_reopened h) hmem
  · exact lf_notMem_closing st hmem

theorem paint_of_plain (hline : '\n' ∉ s) (hplain : '\x1b' ∉ s) :
    paint st s = st.opening ++ s ++ st.closing := by
  have hsplit : Text.splitOn reset s = [s] :=
    Text.splitOn_of_not_infix (not_infix_of_plain hplain 0)
  rw [paint_eq hline, reopened_of_plain hplain, isolated_eq hline, hsplit, joinParts]

/-! ## Painters -/

namespace Painter

variable {painter : Painter}

/-- What is relied on of a painter: a line stays a line, the style is switched on first, and a text
without sequences is left as it is between those of the style. Nothing is relied on where there is
no text to paint. -/
structure Sound (painter : Painter) : Prop where
  lf_notMem : ∀ st s, '\n' ∉ s → '\n' ∉ painter st s
  opening_prefix : ∀ st s, s ≠ [] → st.opening <+: painter st s
  plain : ∀ st s, s ≠ [] → '\n' ∉ s → '\x1b' ∉ s →
    painter st s = st.opening ++ s ++ st.closing

theorem sound_paint : Sound paint where
  lf_notMem _ _ h := lf_notMem_paint h
  opening_prefix st s _ := by
    rw [paint, List.append_assoc]
    exact List.prefix_append _ _
  plain _ _ _ hline hplain := paint_of_plain hline hplain

/-- Texts painted alike are in styles that are switched on alike. -/
theorem Sound.opening_eq (hpainter : painter.Sound) (hs : s ≠ []) (hs' : s' ≠ [])
    (h : painter st s = painter st' s') (hlength : st.opening.length = st'.opening.length) :
    st.opening = st'.opening := by
  obtain ⟨r, hr⟩ := hpainter.opening_prefix st s hs
  obtain ⟨r', hr'⟩ := hpainter.opening_prefix st' s' hs'
  rw [← hr, ← hr'] at h
  exact List.append_inj_left h hlength

end Painter

end Letterhead.Ansi

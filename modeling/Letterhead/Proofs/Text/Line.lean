import Letterhead.Proofs.Text.Cuts

/-
  Where lines begin. A line begins between two joined texts at the very start, behind LF, and
  behind a CR that no LF follows. The line before is blank when a line also begins further up with
  nothing but white space in between (`BelowBlankLine`), which a line with any other character in
  it rules out (`not_belowBlankLine_of_solid`).
-/

namespace Letterhead.Text

variable {x y u : Text} {b : LineBreak} {c : Char}

/-- A line begins between two joined texts. -/
def LineStart (x y : Text) : Prop :=
  x = [] ∨ x.getLast? = some '\n' ∨ x.getLast? = some '\r' ∧ y.head? ≠ some '\n'

/-- A line begins between two joined texts, and the line before it is blank. -/
def BelowBlankLine (x y : Text) : Prop :=
  LineStart x y ∧
    ∃ x' l, x = x' ++ l ∧ l ≠ [] ∧ LineStart x' (l ++ y) ∧ ∀ c ∈ l, isBlank c = true

theorem lineStart_nil (y : Text) : LineStart [] y := Or.inl rfl

theorem lineStart_lineBreak (hb : b = .cr → y.head? ≠ some '\n') (x : Text) :
    LineStart (x ++ b.text) y := by
  cases b with
  | crlf => exact Or.inr (Or.inl (by simp [LineBreak.text]))
  | lf => exact Or.inr (Or.inl (by simp [LineBreak.text]))
  | cr => exact Or.inr (Or.inr ⟨by simp [LineBreak.text], hb rfl⟩)

theorem not_lineStart_of_unbroken (hu : Unbroken u) (hne : u ≠ []) (x y : Text) :
    ¬ LineStart (x ++ u) y := by
  have hlast : (x ++ u).getLast? = some (u.getLast hne) := by
    rw [List.getLast?_append, List.getLast?_eq_some_getLast hne, Option.some_or]
  have hc := hu _ (List.getLast_mem hne)
  rintro (hnil | hlf | ⟨hcr, -⟩)
  · exact hne (List.append_eq_nil_iff.1 hnil).2
  · rw [Option.some.inj (hlast.symm.trans hlf)] at hc
    cases hc
  · rw [Option.some.inj (hlast.symm.trans hcr)] at hc
    cases hc

/-- No line begins within a line break. -/
theorem not_lineStart_in_lineBreak {p q : Text} (hb : b.text = p ++ q) (hp : p ≠ [])
    (hq : q ≠ []) (x y : Text) : ¬ LineStart (x ++ p) (q ++ y) := by
  obtain ⟨rfl, rfl⟩ : p = ['\r'] ∧ q = ['\n'] := by
    cases b with
    | crlf =>
      cases p with
      | nil => exact absurd rfl hp
      | cons c p =>
        cases p with
        | nil => simpa [LineBreak.text, eq_comm] using hb
        | cons d p => simp_all [LineBreak.text]
    | lf => cases p <;> simp_all [LineBreak.text]
    | cr => cases p <;> simp_all [LineBreak.text]
  simp [LineStart]

/-- A line with a character in it that is not blank is no blank line. -/
theorem not_belowBlankLine_of_solid (hc : isBlank c = false) (hu : Unbroken u) (x y : Text) :
    ¬ BelowBlankLine (x ++ (c :: u ++ b.text)) y := by
  have hline : Unbroken (c :: u) := unbroken_cons.2 ⟨isBreakChar_of_isBlank hc, hu⟩
  rintro ⟨-, x', l, hx, hne, hstart, hblank⟩
  have hmem : c ∉ l := fun h => by
    rw [hblank c h] at hc
    cases hc
  -- The blank line would begin before the solid character, within its line, or in the line break.
  rcases List.append_eq_append_iff.1 hx with ⟨p, rfl, hrest⟩ | ⟨p, -, rfl⟩
  · rcases List.append_eq_append_iff.1 hrest with ⟨q, rfl, hb⟩ | ⟨q, hline', rfl⟩
    · by_cases hq : q = []
      · rw [hq, List.append_nil] at hstart
        exact not_lineStart_of_unbroken hline (List.cons_ne_nil c u) x _ hstart
      · rw [← List.append_assoc] at hstart
        exact not_lineStart_in_lineBreak hb hq hne _ _ hstart
    · by_cases hp : p = []
      · rw [hp, List.nil_append] at hline'
        exact hmem (hline' ▸ List.mem_append_left _ List.mem_cons_self)
      · have hpart : Unbroken p := fun d hd => hline d (hline' ▸ List.mem_append_left q hd)
        exact not_lineStart_of_unbroken hpart hp x _ hstart
  · exact hmem (List.mem_append_right p (List.mem_append_left _ List.mem_cons_self))

end Letterhead.Text

import Letterhead.Proofs.Text.BreakCount

/-
  Texts with all their line breaks written in one way. Nothing else of a text changes, so whatever
  tells line breaks only as such finds the same in it: the first characters that are none
  (`takeWhile_setLineBreaks`), the line that it begins with (`cutLine_setLineBreaks`), and a mark
  that holds no line break character (`after?_setLineBreaks`, `cutAt?_setLineBreaks`).
-/

namespace Letterhead.Text

variable {lb b : LineBreak} {mark s r u x y : Text} {c : Char}

/-- Induction on a text piece by piece: a character that belongs to no line break, or a line
break. -/
theorem piece_induction {motive : Text → Prop} (nil : motive [])
    (char : ∀ c s, isBreakChar c = false → motive s → motive (c :: s))
    (lineBreak : ∀ s b r, LineBreak.take? s = some (b, r) → motive r → motive s) (s : Text) :
    motive s := by
  induction hn : s.length using Nat.strongRecOn generalizing s with
  | _ n ih =>
    subst hn
    cases s with
    | nil => exact nil
    | cons c s =>
      cases hc : isBreakChar c with
      | false => exact char c s hc (ih s.length (Nat.lt_succ_self _) s rfl)
      | true =>
        obtain ⟨b, r, hb⟩ := LineBreak.exists_take?_cons hc s
        refine lineBreak _ b r hb (ih r.length ?_ r rfl)
        have hlen := congrArg List.length (LineBreak.eq_of_take? hb)
        have := List.length_pos_iff.2 b.text_ne
        rw [List.length_append] at hlen
        omega

/-! ## Writing -/

theorem setLineBreaks_nil (lb : LineBreak) : setLineBreaks lb.text [] = [] := rfl

theorem setLineBreaks_cons (hc : isBreakChar c = false) (s : Text) :
    setLineBreaks lb.text (c :: s) = c :: setLineBreaks lb.text s := by
  rw [setLineBreaks, pieces_cons hc]
  rfl

theorem setLineBreaks_of_take? (h : LineBreak.take? s = some (b, r)) :
    setLineBreaks lb.text s = lb.text ++ setLineBreaks lb.text r := by
  rw [setLineBreaks, pieces_of_take? h]
  rfl

theorem setLineBreaks_unbroken_append (hu : Unbroken u) (s : Text) :
    setLineBreaks lb.text (u ++ s) = u ++ setLineBreaks lb.text s := by
  induction u with
  | nil => rfl
  | cons c u ih =>
    rw [unbroken_cons] at hu
    rw [List.cons_append, setLineBreaks_cons hu.1, ih hu.2, List.cons_append]

theorem setLineBreaks_unbroken (hu : Unbroken u) : setLineBreaks lb.text u = u := by
  have h : setLineBreaks lb.text (u ++ []) = u ++ setLineBreaks lb.text [] :=
    setLineBreaks_unbroken_append hu []
  rwa [List.append_nil, setLineBreaks_nil, List.append_nil] at h

theorem setLineBreaks_text (lb b : LineBreak) : setLineBreaks lb.text b.text = lb.text := by
  have hb : LineBreak.take? (b.text ++ []) = some (b, []) :=
    LineBreak.take?_text_append (Or.inr (by simp))
  rw [List.append_nil] at hb
  rw [setLineBreaks_of_take? hb, setLineBreaks_nil, List.append_nil]

theorem setLineBreaks_append (h : Apart x y) :
    setLineBreaks lb.text (x ++ y) = setLineBreaks lb.text x ++ setLineBreaks lb.text y := by
  rw [setLineBreaks, pieces_append h, List.flatMap_append]
  rfl

theorem setLineBreaks_eq_nil_iff : setLineBreaks lb.text s = [] ↔ s = [] := by
  cases s with
  | nil => exact iff_of_true rfl rfl
  | cons c s =>
    refine iff_of_false (fun h => ?_) (List.cons_ne_nil c s)
    cases hc : isBreakChar c with
    | false =>
      rw [setLineBreaks_cons hc] at h
      cases h
    | true =>
      obtain ⟨b, r, hb⟩ := LineBreak.exists_take?_cons hc s
      rw [setLineBreaks_of_take? hb] at h
      exact lb.text_ne (List.append_eq_nil_iff.1 h).1

/-! ## Reading -/

theorem take?_setLineBreaks (lb : LineBreak) (s : Text) :
    LineBreak.take? (setLineBreaks lb.text s) =
      (LineBreak.take? s).map fun p => (lb, setLineBreaks lb.text p.2) := by
  cases s with
  | nil => rfl
  | cons c s =>
    cases hc : isBreakChar c with
    | false =>
      rw [setLineBreaks_cons hc, LineBreak.take?_eq_none hc, LineBreak.take?_eq_none hc]
      rfl
    | true =>
      obtain ⟨b, r, hb⟩ := LineBreak.exists_take?_cons hc s
      rw [setLineBreaks_of_take? hb, hb,
        (hasOnly_setLineBreaks lb r).take?_lineBreak_append]
      rfl

theorem cutLine_setLineBreaks (lb : LineBreak) (s : Text) :
    cutLine (setLineBreaks lb.text s) =
      (setLineBreaks lb.text (cutLine s).1, setLineBreaks lb.text (cutLine s).2) := by
  rcases cutLine_cases s with ⟨hu, hc⟩ | ⟨w, b, r, hw, rfl, hb, hc⟩
  · rw [hc, setLineBreaks_unbroken hu, hc]
    rfl
  · have htake := (hasOnly_setLineBreaks lb r).take?_lineBreak_append
    rw [hc, setLineBreaks_unbroken_append hw, setLineBreaks_of_take? hb,
      cutLine_of_take? hw htake, setLineBreaks_unbroken_append hw, setLineBreaks_text]

section Characters

variable {p : Char → Bool} (hp : ∀ c, p c = true → isBreakChar c = false)

include hp

theorem stop_of_take? (h : LineBreak.take? s = some (b, r)) :
    s.takeWhile p = [] ∧ s.dropWhile p = s := by
  obtain ⟨c, s', rfl, hc⟩ := LineBreak.head_of_take? h
  have hstop : ¬ p c = true := fun hpc => by
    rw [hp c hpc] at hc
    cases hc
  rw [List.takeWhile_cons_of_neg hstop, List.dropWhile_cons_of_neg hstop]
  exact ⟨rfl, rfl⟩

theorem takeWhile_setLineBreaks (lb : LineBreak) (s : Text) :
    (setLineBreaks lb.text s).takeWhile p = s.takeWhile p := by
  induction s using piece_induction with
  | nil => rfl
  | char c s hc ih => rw [setLineBreaks_cons hc, List.takeWhile_cons, List.takeWhile_cons, ih]
  | lineBreak s b r hb _ =>
    have htake := take?_setLineBreaks lb s
    rw [hb, Option.map_some] at htake
    rw [(stop_of_take? hp htake).1, (stop_of_take? hp hb).1]

theorem dropWhile_setLineBreaks (lb : LineBreak) (s : Text) :
    (setLineBreaks lb.text s).dropWhile p = setLineBreaks lb.text (s.dropWhile p) := by
  induction s using piece_induction with
  | nil => rfl
  | char c s hc ih =>
    rw [setLineBreaks_cons hc, List.dropWhile_cons, List.dropWhile_cons, ih]
    by_cases hpc : p c = true
    · rw [if_pos hpc, if_pos hpc]
    · rw [if_neg hpc, if_neg hpc, setLineBreaks_cons hc]
  | lineBreak s b r hb _ =>
    have htake := take?_setLineBreaks lb s
    rw [hb, Option.map_some] at htake
    rw [(stop_of_take? hp htake).2, (stop_of_take? hp hb).2]

end Characters

/-! ## Searching -/

/-- A mark without line break characters does not begin with a line break. -/
theorem after?_of_take? (hm : Unbroken mark) (hne : mark ≠ [])
    (h : LineBreak.take? s = some (b, r)) : after? mark s = none := by
  obtain ⟨c, s', rfl, hc⟩ := LineBreak.head_of_take? h
  cases mark with
  | nil => exact absurd rfl hne
  | cons m mark =>
    rw [after?, if_neg]
    rintro rfl
    rw [(unbroken_cons.1 hm).1] at hc
    cases hc

theorem after?_setLineBreaks (hm : Unbroken mark) (lb : LineBreak) (s : Text) :
    after? mark (setLineBreaks lb.text s) = (after? mark s).map (setLineBreaks lb.text) := by
  induction mark generalizing s with
  | nil => rfl
  | cons m mark ih =>
    cases s with
    | nil => rfl
    | cons c s =>
      cases hc : isBreakChar c with
      | false =>
        rw [setLineBreaks_cons hc, after?, after?, ih (unbroken_cons.1 hm).2]
        split <;> rfl
      | true =>
        obtain ⟨b, r, hb⟩ := LineBreak.exists_take?_cons hc s
        have htake := take?_setLineBreaks lb (c :: s)
        rw [hb, Option.map_some] at htake
        rw [after?_of_take? hm (List.cons_ne_nil m mark) htake,
          after?_of_take? hm (List.cons_ne_nil m mark) hb]
        rfl

/-- A mark without line break characters is not found in a line break. -/
theorem cutAt?_append_of_breaks (hm : Unbroken mark) (hne : mark ≠ []) {z : Text}
    (hz : ∀ c ∈ z, isBreakChar c = true) (s : Text) :
    cutAt? mark (z ++ s) = (cutAt? mark s).map fun p => (z ++ p.1, p.2) := by
  induction z with
  | nil => simp
  | cons c z ih =>
    rw [List.forall_mem_cons] at hz
    obtain ⟨b, r, hb⟩ := LineBreak.exists_take?_cons hz.1 (z ++ s)
    rw [List.cons_append, cutAt?, after?_of_take? hm hne hb, ih hz.2, Option.map_map]
    rfl

theorem cutAt?_setLineBreaks (hm : Unbroken mark) (hne : mark ≠ []) (lb : LineBreak) (s : Text) :
    cutAt? mark (setLineBreaks lb.text s) = (cutAt? mark s).map fun p =>
      (setLineBreaks lb.text p.1, setLineBreaks lb.text p.2) := by
  induction s using piece_induction with
  | nil => simp [setLineBreaks_nil, cutAt?, hne]
  | char c s hc ih =>
    have hafter := after?_setLineBreaks hm lb (c :: s)
    rw [setLineBreaks_cons hc] at hafter ⊢
    rw [cutAt?, cutAt?, hafter, ih]
    cases after? mark (c :: s) with
    | some r => rfl
    | none =>
      cases cutAt? mark s with
      | none => rfl
      | some p =>
        simp only [Option.map_none, Option.map_some]
        rw [setLineBreaks_cons hc]
  | lineBreak s b r hb ih =>
    have hs := LineBreak.eq_of_take? hb
    have hbreaks (b : LineBreak) : ∀ c ∈ b.text, isBreakChar c = true := fun _ =>
      LineBreak.isBreakChar_of_mem_text
    rw [setLineBreaks_of_take? hb, cutAt?_append_of_breaks hm hne (hbreaks lb), ih, hs,
      cutAt?_append_of_breaks hm hne (hbreaks b)]
    cases hr : cutAt? mark r with
    | none => rfl
    | some p =>
      have hbefore : p.1 <+: r := by
        rw [eq_of_cutAt? hr, List.append_assoc]
        exact List.prefix_append _ _
      have htake := LineBreak.take?_shorten (hs ▸ hb) hbefore
      simp only [Option.map_some]
      rw [setLineBreaks_of_take? htake]

end Letterhead.Text

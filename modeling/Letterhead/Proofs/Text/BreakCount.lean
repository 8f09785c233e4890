import Letterhead.Proofs.Text.Cuts

/-
  The line breaks of a joined text. A text is read piece by piece, so two texts have their own line
  breaks when they are joined, unless CR meets LF at the seam (`countBreaks_append`). The most
  frequent line break is then a matter of adding up counts, with ties settled by the order CRLF,
  LF, CR (`dominantBreak_eq_iff`).
-/

namespace Letterhead

/-- The place of a line break in the order that settles ties. -/
def LineBreak.place : LineBreak → Nat
  | crlf => 0
  | lf => 1
  | cr => 2

namespace Text

variable {s x y : Text} {b lb : LineBreak}

/-! ## Pieces -/

theorem pieces_cons {c : Char} (hc : isBreakChar c = false) (s : Text) :
    pieces (c :: s) = .char c :: pieces s := by
  rw [pieces.eq_def]
  split <;> simp_all [isBreakChar]

theorem pieces_of_take? (h : LineBreak.take? x = some (b, y)) :
    pieces x = .lineBreak b :: pieces y := by
  unfold LineBreak.take? at h
  split at h <;> simp_all [pieces]

/-- No CR at the end of the one text meets LF at the start of the other. -/
def Apart (x y : Text) : Prop := x.getLast? = some '\r' → y.head? ≠ some '\n'

instance (x y : Text) : Decidable (Apart x y) := inferInstanceAs (Decidable (_ → _))

theorem Apart.of_cons {c : Char} (h : Apart (c :: x) y) : Apart x y := by
  intro hx
  refine h ?_
  rw [List.getLast?_cons, hx]
  rfl

theorem Apart.append_left (h : Apart y s) (hy : y ≠ []) (x : Text) : Apart (x ++ y) s := by
  intro hlast
  rw [List.getLast?_append, List.getLast?_eq_some_getLast hy, Option.some_or,
    ← List.getLast?_eq_some_getLast hy] at hlast
  exact h hlast

/-- Texts that are joined keep their pieces. -/
theorem pieces_append (h : Apart x y) : pieces (x ++ y) = pieces x ++ pieces y := by
  fun_induction pieces x with
  | case1 s ih => exact congrArg (List.cons _) (ih h.of_cons.of_cons)
  | case2 s hs ih =>
    have hnext : (s ++ y).head? ≠ some '\n' := by
      cases s with
      | nil => exact h rfl
      | cons c s =>
        rintro hc
        obtain rfl : c = '\n' := Option.some.inj hc
        exact hs s rfl
    have htake : LineBreak.take? ('\r' :: (s ++ y)) = some (.cr, s ++ y) :=
      LineBreak.take?_text_append (b := .cr) (Or.inr hnext)
    rw [List.cons_append, pieces_of_take? htake, ih h.of_cons, List.cons_append]
  | case3 s ih => exact congrArg (List.cons _) (ih h.of_cons)
  | case4 c s hcrlf hcr hlf ih =>
    have hc : isBreakChar c = false := by
      simp only [isBreakChar, Bool.or_eq_false_iff, beq_eq_false_iff_ne]
      exact ⟨hlf, hcr⟩
    rw [List.cons_append, pieces_cons hc, ih h.of_cons, List.cons_append]
  | case5 => rfl

theorem countBreaks_append (h : Apart x y) (b : LineBreak) :
    countBreaks b (x ++ y) = countBreaks b x + countBreaks b y := by
  rw [countBreaks, pieces_append h, List.count_append]
  rfl

/-! ## One kind of line break -/

/-- A text in which every line break is `lb`. -/
def HasOnly (lb : LineBreak) (s : Text) : Prop := ∀ b, .lineBreak b ∈ pieces s → b = lb

theorem HasOnly.countBreaks_eq_zero (h : HasOnly lb s) (hb : b ≠ lb) : countBreaks b s = 0 :=
  List.count_eq_zero.2 fun hmem => hb (h b hmem)

theorem hasOnly_nil (lb : LineBreak) : HasOnly lb [] := by simp [HasOnly, pieces]

theorem exists_of_mem_cr (h : '\r' ∈ s) : ∃ b ≠ .lf, .lineBreak b ∈ pieces s := by
  fun_induction pieces s with
  | case1 s ih => exact ⟨.crlf, by decide, List.mem_cons_self⟩
  | case2 s hs ih => exact ⟨.cr, by decide, List.mem_cons_self⟩
  | case3 s ih =>
    obtain ⟨b, hb, hmem⟩ := ih (by simpa using h)
    exact ⟨b, hb, List.mem_cons_of_mem _ hmem⟩
  | case4 c s hcrlf hcr hlf ih =>
    obtain ⟨b, hb, hmem⟩ := ih ((List.mem_cons.1 h).resolve_left fun hc => hcr hc.symm)
    exact ⟨b, hb, List.mem_cons_of_mem _ hmem⟩
  | case5 => cases h

/-- A line break of the same kind behind a text stays apart from those in it. -/
theorem HasOnly.apart (h : HasOnly lb x) (y : Text) : Apart x (lb.text ++ y) := by
  intro hlast
  cases lb with
  | crlf => simp [LineBreak.text]
  | cr => simp [LineBreak.text]
  | lf =>
    obtain ⟨b, hb, hmem⟩ := exists_of_mem_cr (List.mem_of_getLast? hlast)
    exact absurd (h b hmem) hb

theorem HasOnly.take?_lineBreak_append (h : HasOnly lb y) :
    LineBreak.take? (lb.text ++ y) = some (lb, y) := by
  refine LineBreak.take?_text_append (or_iff_not_imp_left.2 fun hcr hy => ?_)
  rw [not_not] at hcr
  subst hcr
  cases y with
  | nil => cases hy
  | cons c y =>
    obtain rfl : c = '\n' := Option.some.inj hy
    cases h .lf List.mem_cons_self

theorem HasOnly.lineBreak_append (h : HasOnly lb y) : HasOnly lb (lb.text ++ y) := by
  intro b hb
  rw [pieces_of_take? h.take?_lineBreak_append, List.mem_cons] at hb
  rcases hb with hb | hb
  · exact Piece.lineBreak.inj hb
  · exact h b hb

theorem HasOnly.append_lineBreak (h : HasOnly lb x) : HasOnly lb (x ++ lb.text) := by
  intro b hb
  have happart := h.apart []
  have hlast := (hasOnly_nil lb).lineBreak_append
  rw [List.append_nil] at happart hlast
  rw [pieces_append happart, List.mem_append] at hb
  exact hb.elim (h b) (hlast b)

theorem hasOnly_setLineBreaks (lb : LineBreak) (s : Text) :
    HasOnly lb (setLineBreaks lb.text s) := by
  unfold setLineBreaks
  fun_induction pieces s with
  | case1 s ih => exact ih.lineBreak_append
  | case2 s hs ih => exact ih.lineBreak_append
  | case3 s ih => exact ih.lineBreak_append
  | case4 c s hcrlf hcr hlf ih =>
    have hc : isBreakChar c = false := by
      simp only [isBreakChar, Bool.or_eq_false_iff, beq_eq_false_iff_ne]
      exact ⟨hlf, hcr⟩
    intro b hb
    rw [List.flatMap_cons, List.singleton_append, pieces_cons hc, List.mem_cons] at hb
    exact ih b (hb.resolve_left (by simp))
  | case5 => exact hasOnly_nil lb

/-! ## The most frequent line break -/

/-- No line break is more frequent than `lb`, and none that comes before it in the order is as
frequent. -/
def Prevails (lb : LineBreak) (s : Text) : Prop :=
  ∀ b ≠ lb, countBreaks b s < countBreaks lb s ∨
    countBreaks b s = countBreaks lb s ∧ lb.place < b.place

theorem prevails_iff : Prevails lb s ↔
    match lb with
    | .crlf => countBreaks .lf s ≤ countBreaks .crlf s ∧ countBreaks .cr s ≤ countBreaks .crlf s
    | .lf => countBreaks .crlf s < countBreaks .lf s ∧ countBreaks .cr s ≤ countBreaks .lf s
    | .cr => countBreaks .crlf s < countBreaks .cr s ∧ countBreaks .lf s < countBreaks .cr s := by
  have hall : ∀ p : LineBreak → Prop, (∀ b, p b) ↔ p .crlf ∧ p .lf ∧ p .cr := fun p =>
    ⟨fun h => ⟨h _, h _, h _⟩, fun h b => by cases b <;> simp [h]⟩
  unfold Prevails
  rw [hall]
  cases lb <;> simp [LineBreak.place] <;> omega

theorem dominantBreak_eq_iff (h : 0 < countBreaks b s) :
    dominantBreak s = lb ↔ Prevails lb s := by
  have hsome : 0 < countBreaks .crlf s ∨ 0 < countBreaks .lf s ∨ 0 < countBreaks .cr s := by
    cases b <;> simp [h]
  rw [prevails_iff, dominantBreak]
  cases lb <;> dsimp only <;> split_ifs <;> simp <;> omega

theorem dominantBreak_eq_lf (h : ∀ b, countBreaks b s = 0) : dominantBreak s = .lf := by
  simp [dominantBreak, h]

theorem Prevails.countBreaks_pos (h : Prevails lb s) (hb : 0 < countBreaks b s) :
    0 < countBreaks lb s := by
  by_cases hne : b = lb
  · rwa [← hne]
  · have := h b hne
    omega

/-- The most frequent line break stays when the start of a text gives way to one that has no fewer
of it and no other line breaks. -/
theorem dominantBreak_replaced {e w f : Text} (hlb : dominantBreak (e ++ f) = lb)
    (hw : HasOnly lb w) (hle : countBreaks lb e ≤ countBreaks lb w) (hef : Apart e f)
    (hwf : Apart w f) : dominantBreak (w ++ f) = lb := by
  have hbefore := countBreaks_append hef
  have hafter := countBreaks_append hwf
  by_cases hvote : ∃ b, 0 < countBreaks b (e ++ f)
  · obtain ⟨b₁, hb₁⟩ := hvote
    have hprevails := (dominantBreak_eq_iff hb₁).1 hlb
    have hpos := hprevails.countBreaks_pos hb₁
    rw [hbefore] at hpos
    refine (dominantBreak_eq_iff (b := lb) (by rw [hafter]; omega)).2 fun b hb => ?_
    have hcount := hprevails b hb
    have hother := hw.countBreaks_eq_zero hb
    rw [hbefore, hbefore] at hcount
    rw [hafter, hafter]
    omega
  · -- Without a line break in the text there are only those of the new start.
    have hnone : ∀ b, countBreaks b (e ++ f) = 0 := fun b => by
      by_contra hb
      exact hvote ⟨b, Nat.pos_of_ne_zero hb⟩
    obtain rfl : lb = .lf := hlb.symm.trans (dominantBreak_eq_lf hnone)
    have hrest : ∀ b, countBreaks b f = 0 := fun b => by
      have := hnone b
      rw [hbefore] at this
      omega
    by_cases hpos : 0 < countBreaks .lf w
    · refine (dominantBreak_eq_iff (b := .lf) (by rw [hafter]; omega)).2 fun b hb => Or.inl ?_
      rw [hafter, hafter, hrest, hrest, hw.countBreaks_eq_zero hb]
      omega
    · refine dominantBreak_eq_lf fun b => ?_
      rw [hafter, hrest]
      by_cases hb : b = .lf
      · rw [hb]
        omega
      · rw [hw.countBreaks_eq_zero hb]

end Text
end Letterhead

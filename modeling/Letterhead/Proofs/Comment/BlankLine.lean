import Letterhead.Proofs.Comment.Seam

/-
  Blank lines around a seam. The first token of a text is blank space or a line break exactly when
  its first line is blank (`Takes.isBlank_eq`). A construct opens a block behind a text that ends,
  for the comment run, below a blank line (`partsBelow`), and a header with two line breaks behind
  it does (`partsBelow_append_lines`).
-/

namespace Letterhead

namespace Text

/-- Whether the first line of a text is blank. -/
def startsBlank (s : Text) : Bool := s != [] && allBlank (cutLine s).1

theorem startsBlank_eq_false {s : Text} {c : Char} (hs : c ∈ (cutLine s).1)
    (hc : isBlank c = false) : startsBlank s = false := by
  have hall : allBlank (cutLine s).1 = false := by
    rw [allBlank, List.all_eq_false]
    exact ⟨c, hs, by simp [hc]⟩
  rw [startsBlank, hall, Bool.and_false]

theorem startsBlank_of_allBlank {s : Text} (hne : s ≠ []) (hs : ∀ c ∈ (cutLine s).1,
    isBlank c = true) : startsBlank s = true := by
  have hall : allBlank (cutLine s).1 = true := by
    rw [allBlank, List.all_eq_true]
    exact hs
  rw [startsBlank, hall, Bool.and_true, bne_iff_ne]
  exact hne

theorem startsBlank_lf (s : Text) : startsBlank ('\n' :: s) = true :=
  startsBlank_of_allBlank (List.cons_ne_nil _ _) (by simp [cutLine, isBlank])

end Text

namespace Comment

theorem Gap.unbroken {g : Text} (hg : Gap g) : Text.Unbroken g := fun c hc => by
  have := hg c hc
  simp only [isGap, Bool.and_eq_true, Bool.not_eq_true'] at this
  exact this.2

theorem Gap.isBlank {g : Text} (hg : Gap g) {c : Char} (hc : c ∈ g) : isBlank c = true := by
  have := hg c hc
  simp only [isGap, Bool.and_eq_true] at this
  exact this.1

namespace Style

variable {st : Style} {depth : Nat} {s r g : Text} {t : Token} {ts : List Token} {b : LineBreak}

/-! ## Blank first lines -/

/-- The line of a construct goes on past the blank space before it. -/
theorem startsBlank_of_solid {m : Text} (hg : Gap g) (hm : BeginsSolid m) (s : Text) :
    Text.startsBlank (g ++ (m ++ s)) = false := by
  obtain ⟨c, m', hc, hsolid⟩ := hm.append s
  have hbreak := isBreakChar_of_isBlank hsolid
  refine Text.startsBlank_eq_false (c := c) ?_ hsolid
  rw [hc]
  clear hc
  induction g with
  | nil => rw [List.nil_append, Text.cutLine_cons hbreak]; exact List.mem_cons_self
  | cons d g ih =>
    have hg' : Gap g := fun e he => hg e (List.mem_cons_of_mem d he)
    rw [List.cons_append, Text.cutLine_cons (hg.unbroken d List.mem_cons_self)]
    exact List.mem_cons_of_mem d (ih hg')

/-- The first token of a text is blank exactly when the first line is. -/
theorem Takes.isBlank_eq (h : st.Takes depth s t r) : t.kind.isBlank = Text.startsBlank s := by
  cases h with
  | space hg hne =>
    refine (Text.startsBlank_of_allBlank hne ?_).symm
    rw [Text.cutLine_unbroken hg.unbroken]
    exact fun c hc => hg.isBlank hc
  | @lineBreak g r b hg hb =>
    refine (Text.startsBlank_of_allBlank (by simp [b.text_ne]) ?_).symm
    rw [Text.cutLine_of_take? hg.unbroken hb]
    intro c hc
    rcases List.mem_append.1 hc with hc | hc
    · exact hg.isBlank hc
    · exact isBlank_of_isBreakChar (LineBreak.isBreakChar_of_mem_text hc)
  | @line g m y r o kind hg hm ho hk =>
    rw [startsBlank_of_solid hg hm]
    cases o <;> simp only [Opening.lineKind?, Option.some.injEq, reduceCtorEq] at hk <;>
      rw [← hk] <;> rfl
  | block hg hm => rw [startsBlank_of_solid hg hm]; rfl

/-- A blank first line has a token of its own. -/
theorem exists_takes_of_startsBlank (st : Style) (hs : Text.startsBlank s = true) :
    ∃ t r, st.Takes 0 s t r ∧ t.kind.isBlank = true ∧ t.kind.depthAfter 0 = 0 := by
  simp only [Text.startsBlank, Bool.and_eq_true, bne_iff_ne, Text.allBlank,
    List.all_eq_true] at hs
  obtain ⟨hne, hblank⟩ := hs
  have hgap : ∀ {w : Text}, Text.Unbroken w → (∀ c ∈ w, isBlank c = true) → Gap w :=
    fun hw hb c hc => by simp [isGap, hw c hc, hb c hc]
  rcases Text.cutLine_cases s with ⟨hu, hc⟩ | ⟨w, b, r, hw, rfl, hb, hc⟩
  · rw [hc] at hblank
    exact ⟨_, [], .space (hgap hu hblank) hne, rfl, rfl⟩
  · rw [hc] at hblank
    have hw' := hgap hw fun c hc => hblank c (List.mem_append_left _ hc)
    exact ⟨_, r, .lineBreak hw' hb, rfl, rfl⟩

theorem headerTokens_of_startsBlank (st : Style) (hs : Text.startsBlank s = true) :
    ∃ t ts, st.headerTokens s = t :: ts ∧ t.kind.isBlank = true ∧ t.text ≠ [] := by
  obtain ⟨t, r, ht, hk, hd⟩ := exists_takes_of_startsBlank st hs
  have hread : st.Reads 0 s [t] r := .step ht .done
  exact ⟨t, st.headerTokens r, hread.headerTokens hd, hk, ht.text_ne⟩

/-- The first token of a header whose first line is not blank is a construct. -/
theorem construct_of_headerTokens (hs : Text.startsBlank s = false)
    (h : st.headerTokens s = t :: ts) :
    t.kind.isBlank = false ∧ ∃ c ∈ t.text, isBlank c = false := by
  have hread := st.reads_header s
  rw [h] at hread
  have hk : t.kind.isBlank = false := by
    cases hread with
    | step ht _ => rw [ht.isBlank_eq, hs]
  exact ⟨hk, hread.solid_of_mem List.mem_cons_self hk⟩

theorem headerTokens_eq_nil (hs : st.header s = []) : st.headerTokens s = [] := by
  have hread := st.reads_header s
  rw [header] at hs
  cases htok : st.headerTokens s with
  | nil => rfl
  | cons t ts =>
    rw [htok] at hread hs
    exact absurd (List.append_eq_nil_iff.1 hs).1 (hread.text_ne List.mem_cons_self)

theorem blocks_eq_nil (hs : st.header s = []) : st.blocks s = [] := by
  rw [blocks, headerTokens_eq_nil hs]
  rfl

/-- A text that begins with no comment run does not begin with a blank line either. -/
theorem startsBlank_of_no_header (hs : st.header s = []) : Text.startsBlank s = false := by
  rw [Bool.eq_false_iff]
  intro hblank
  obtain ⟨t, ts, htok, -, -⟩ := st.headerTokens_of_startsBlank hblank
  rw [headerTokens_eq_nil hs] at htok
  cases htok

/-- The first block of a header whose first line is not blank is more than blank space. -/
theorem solid_of_first_block (hs : Text.startsBlank s = false) {x : Text} {later : List Text}
    (h : st.blocks s = x :: later) : ∃ c ∈ x, Letterhead.isBlank c = false := by
  cases htok : st.headerTokens s with
  | nil => simp [blocks, htok, blocksOf_nil] at h
  | cons t ts =>
    obtain ⟨-, c, hc, hsolid⟩ := construct_of_headerTokens hs htok
    rw [blocks, htok, blocksOf_cons, cutBlocks_cons_of_not_opens (LineState.opens_start t),
      List.map_cons, textOf_cons] at h
    exact ⟨c, (List.cons.inj h).1 ▸ List.mem_append_left _ hc, hsolid⟩

/-- No marker stands at the start of a text that begins with a line break. -/
theorem startsWithComment_of_take? (hst : st.MarkersInLine) (hs : LineBreak.take? s = some (b, r)) :
    st.startsWithComment s = false := by
  obtain ⟨c, s', rfl, hc⟩ := LineBreak.head_of_take? hs
  have hdrop : (c :: s').dropWhile (fun c => c == ' ' || c == '\t') = c :: s' := by
    have hspace : (c == ' ' || c == '\t') = false := by
      simp only [isBreakChar, Bool.or_eq_true, beq_iff_eq] at hc
      rcases hc with rfl | rfl <;> rfl
    rw [List.dropWhile_cons_of_neg (by simp [hspace])]
  have hnone := opening?_append (s := []) hst hs
  rw [List.nil_append] at hnone
  rw [startsWithComment, hdrop, hnone]
  cases ho : st.opening? [] with
  | none => rfl
  | some p =>
    obtain ⟨m, o⟩ := p
    obtain ⟨hne, he⟩ := opening?_spec ho
    exact absurd (List.append_eq_nil_iff.1 he.symm).1 hne

/-! ## Blocks behind a text -/

/-- Whether a construct behind a text, at the start of a line, opens a block of its own. -/
def partsBelow (st : Style) (s : Text) : Bool :=
  (LineState.afterAll {} (st.run 0 s).tokens).afterBlank

theorem Reads.partsBelow (h : st.Reads 0 (s ++ r) ts r) :
    st.partsBelow s = (LineState.afterAll {} ts).afterBlank := by
  have htext : textOf ts = s := List.append_cancel_right h.eq_append.symm
  have hown := h.shorten List.nil_prefix
  rw [List.append_nil, htext] at hown
  rw [Style.partsBelow, hown.run_eq, run_nil, List.append_nil]

/-- A header with two line breaks behind it ends with a blank line. -/
theorem partsBelow_append_lines (hst : st.MarkersInLine) (hs : st.isHeader s = true)
    (b : LineBreak) : st.partsBelow (s ++ b.text ++ b.text) = true := by
  obtain ⟨us, r', hus, -, hfresh, hr'⟩ := exists_reads_line hst hs b b.text
  obtain rfl : r' = b.text := by
    rcases hr' with h | ⟨rfl, h⟩
    · exact h
    · simp [LineBreak.text] at h
  have hb : LineBreak.take? (b.text ++ []) = some (b, []) :=
    LineBreak.take?_text_append (Or.inr (by simp))
  have hlast : st.Takes (depthAfter 0 us) b.text ⟨[], .lineBreak, b.text⟩ [] := by
    have h : st.Takes (depthAfter 0 us) _ _ _ := .lineBreak gap_nil hb
    simpa using h
  have hread := hus.trans (.step hlast .done)
  rw [← List.append_nil (s ++ (b.text ++ b.text)), ← List.append_assoc s] at hread
  rw [hread.partsBelow, LineState.afterAll_append, LineState.afterAll_cons,
    LineState.afterAll_nil]
  simp [LineState.after, hfresh]

/-- A blank line before a text that begins with none is a block of its own. -/
theorem mem_blocks_of_blank_line (hg : Text.startsBlank g = false) {x : Text}
    (hx : x ∈ st.blocks g) : x ∈ st.blocks (b.text ++ g) := by
  have hb : LineBreak.take? (b.text ++ g) = some (b, g) := by
    refine LineBreak.take?_text_append (Or.inr ?_)
    cases g with
    | nil => simp
    | cons c g =>
      intro hc
      obtain rfl : c = '\n' := by simpa using hc
      rw [Text.startsBlank_lf] at hg
      cases hg
  have ht : st.Takes 0 (b.text ++ g) ⟨[], .lineBreak, b.text⟩ g := .lineBreak gap_nil hb
  have hread : st.Reads 0 (b.text ++ g) [⟨[], .lineBreak, b.text⟩] g := .step ht .done
  unfold blocks at hx ⊢
  rw [hread.headerTokens rfl]
  cases htok : st.headerTokens g with
  | nil => rw [htok, blocksOf_nil] at hx; cases hx
  | cons u us =>
    obtain ⟨hk, -⟩ := construct_of_headerTokens hg htok
    have hopens : (LineState.after {} ⟨[], .lineBreak, b.text⟩).opens u = true :=
      LineState.opens_iff.2 ⟨hk, rfl, rfl, rfl⟩
    rw [htok] at hx
    rw [List.singleton_append, blocksOf_cons,
      cutBlocks_cons_of_not_opens (LineState.opens_start _), cutBlocks_of_opens hopens]
    exact List.mem_cons_of_mem _ hx

end Style
end Comment
end Letterhead

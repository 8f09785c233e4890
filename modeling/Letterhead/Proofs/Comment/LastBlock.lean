import Letterhead.Proofs.Comment.BlankLine

/-
  The last block of a header, with a line break written behind it (`blocks_append_line`) and a text
  below that. The line break belongs to that block. A blank line parts the block from a comment
  below (`blocks_joined`); without one it takes in the first block of the text below
  (`blocks_joined_of_not_parted`).
-/

namespace Letterhead.Comment

variable {l : LineState} {b : LineBreak} {ts us : List Token}

/-- Of the blocks of a text only the last one changes when a line break is written behind it. -/
theorem Lengthened.cutBlocks (h : Lengthened b ts us) (l : LineState) :
    ∃ first last last', (cutBlocks l ts).1 :: (cutBlocks l ts).2 = first ++ [last] ∧
      (cutBlocks l us).1 :: (cutBlocks l us).2 = first ++ [last'] ∧
      textOf last' = textOf last ++ b.text := by
  induction h generalizing l with
  | line =>
    have ho : l.opens ⟨[], .lineBreak, b.text⟩ = false := by simp [LineState.opens]
    refine ⟨[], [], [⟨[], .lineBreak, b.text⟩], rfl, ?_, by simp [Token.text]⟩
    rw [cutBlocks_cons_of_not_opens ho]
    rfl
  | @last t u hu =>
    have ho : l.opens u = l.opens t := by
      rw [Bool.eq_iff_iff, LineState.opens_iff, LineState.opens_iff, hu.isBlank_eq]
    have htext : textOf [u] = textOf [t] ++ b.text := by simp [hu.text_eq]
    cases hot : l.opens t with
    | true =>
      refine ⟨[[]], [t], [u], ?_, ?_, htext⟩
      · rw [cutBlocks_cons_of_opens hot]; rfl
      · rw [cutBlocks_cons_of_opens (ho.trans hot)]; rfl
    | false =>
      refine ⟨[], [t], [u], ?_, ?_, htext⟩
      · rw [cutBlocks_cons_of_not_opens hot]; rfl
      · rw [cutBlocks_cons_of_not_opens (ho.trans hot)]; rfl
  | @cons t ts us _ ih =>
    obtain ⟨first, last, last', hts, hus, htext⟩ := ih (l.after t)
    obtain ⟨first', front, hcut⟩ := exists_cut_cons l t first
    refine ⟨first', front ++ last, front ++ last', hcut hts, hcut hus, ?_⟩
    rw [textOf_append, textOf_append, htext, List.append_assoc]

theorem blocksOf_eq_cut (hts : ts ≠ []) :
    blocksOf ts = (cutBlocks {} ts).1 :: (cutBlocks {} ts).2 := by
  cases ts with
  | nil => exact absurd rfl hts
  | cons t ts => exact blocksOf_cons t ts

namespace Style

variable {st : Style} {s g : Text}

theorem headerTokens_nil (st : Style) : st.headerTokens [] = [] := by
  unfold headerTokens
  rw [run_nil]
  rfl

theorem Reads.headerTokens_of_all (h : st.Reads 0 s ts []) (hd : depthAfter 0 ts = 0) :
    st.headerTokens s = ts := by
  rw [h.headerTokens hd, headerTokens_nil, List.append_nil]

/-- A line break behind a header belongs to its last block. -/
theorem blocks_append_line (hst : st.MarkersInLine) (hs : st.isHeader s = true)
    {first : List Text} {last : Text} (h : st.blocks s = first ++ [last]) (b : LineBreak) :
    st.blocks (s ++ b.text) = first ++ [last ++ b.text] := by
  obtain ⟨ts, hts, hd⟩ := isHeader_iff.1 hs
  have hb : LineBreak.take? b.text = some (b, []) := by
    have := LineBreak.take?_text_append (b := b) (s := []) (Or.inr (by simp))
    rwa [List.append_nil] at this
  obtain ⟨us, hus, hlong⟩ := hts.extend hst hb
  have htok := hts.headerTokens_of_all hd
  have hne : ts ≠ [] := by
    rintro rfl
    rw [blocks, htok] at h
    simp [blocksOf_nil] at h
  obtain ⟨first', last₁, last₂, hcut, hcut', htext⟩ := hlong.cutBlocks {}
  rw [blocks, htok, blocksOf_eq_cut hne, hcut, List.map_append, List.map_singleton] at h
  obtain ⟨rfl, hlast⟩ := List.append_inj' h rfl
  rw [blocks, hus.headerTokens_of_all ((hlong.depthAfter 0).trans hd), blocksOf_eq_cut hlong.ne_nil,
    hcut', List.map_append, List.map_singleton, htext, List.singleton_inj.1 hlast]

/-- A header is read over the line break behind it, before a text that begins with no blank
line. -/
theorem exists_reads_above (hst : st.MarkersInLine) (hs : st.isHeader s = true) (b : LineBreak)
    (hg : Text.startsBlank g = false) :
    ∃ us, st.Reads 0 (s ++ b.text ++ g) us g ∧ depthAfter 0 us = 0 ∧
      (LineState.afterAll {} us).fresh = true ∧ st.headerTokens (s ++ b.text) = us := by
  obtain ⟨us, g', hus, hd, hfresh, hg'⟩ := exists_reads_line hst hs b g
  obtain rfl : g' = g := by
    rcases hg' with hg' | ⟨-, rfl⟩
    · exact hg'
    · rw [Text.startsBlank_lf] at hg
      cases hg
  rw [← List.append_assoc] at hus
  have htext : textOf us = s ++ b.text := List.append_cancel_right hus.eq_append.symm
  have hown := hus.shorten List.nil_prefix
  rw [List.append_nil, htext] at hown
  exact ⟨us, hus, hd, hfresh {}, hown.headerTokens_of_all hd⟩

/-! ## A text below -/

/-- Below a blank line a text keeps its blocks. -/
theorem cutBlocks_of_parted (hg : Text.startsBlank g = false) {us : List Token}
    (hfresh : (LineState.afterAll {} us).fresh = true) (hd : depthAfter 0 us = 0)
    (hparts : st.header g = [] ∨ (LineState.afterAll {} us).afterBlank = true) :
    cutBlocks (LineState.afterAll {} us) (st.headerTokens g) =
      ([], blocksOf (st.headerTokens g)) := by
  cases htok : st.headerTokens g with
  | nil => rfl
  | cons t ts =>
    obtain ⟨hk, c, hc, -⟩ := construct_of_headerTokens hg htok
    have hheader : st.header g ≠ [] := by
      rw [header, htok, textOf_cons]
      exact List.ne_nil_of_mem (List.mem_append_left _ hc)
    refine cutBlocks_of_opens (LineState.opens_iff.2 ⟨hk, hfresh, ?_, ?_⟩)
    · exact hparts.resolve_left hheader
    · rw [LineState.afterAll_depth, hd]

/-- Without a blank line between them the first comment of a text goes on in the block above. -/
theorem cutBlocks_of_not_parted (hg : Text.startsBlank g = false) {us : List Token}
    (hheader : st.header g ≠ []) (hparts : (LineState.afterAll {} us).afterBlank = false) :
    ∃ t mid later, cutBlocks (LineState.afterAll {} us) (st.headerTokens g) = (t :: mid, later) ∧
      ∃ c ∈ t.text, isBlank c = false := by
  cases htok : st.headerTokens g with
  | nil => exact absurd (by rw [header, htok, textOf_nil]) hheader
  | cons t ts =>
    obtain ⟨-, hsolid⟩ := construct_of_headerTokens hg htok
    have hopens : (LineState.afterAll {} us).opens t = false := by
      rw [Bool.eq_false_iff]
      intro ho
      rw [(LineState.opens_iff.1 ho).2.2.1] at hparts
      cases hparts
    exact ⟨t, _, _, cutBlocks_cons_of_not_opens hopens, hsolid⟩

/-- Without a blank line above it a text is cut as it is by itself, since a line begins there and
no region is open. -/
theorem cutBlocks_of_continued {us : List Token}
    (hfresh : (LineState.afterAll {} us).fresh = true) (hd : depthAfter 0 us = 0)
    (hparts : (LineState.afterAll {} us).afterBlank = false) (ts : List Token) :
    cutBlocks (LineState.afterAll {} us) ts = cutBlocks {} ts := by
  have hdepth := LineState.afterAll_depth {} us
  rw [hd] at hdepth
  generalize LineState.afterAll {} us = l at hfresh hdepth hparts
  obtain ⟨fresh, afterBlank, depth⟩ := l
  dsimp only at hfresh hdepth hparts
  rw [hfresh, hdepth, hparts]

section Joined

variable (hst : st.MarkersInLine) (hs : st.isHeader s = true) (b : LineBreak)
  (hg : Text.startsBlank g = false) {first : List Text} {last : Text}
  (h : st.blocks (s ++ b.text) = first ++ [last])

include hst hs hg h

/-- The tokens of a header above a text, and its blocks as they go on in that text. -/
theorem exists_blocks_joined :
    ∃ us, depthAfter 0 us = 0 ∧ (LineState.afterAll {} us).fresh = true ∧
      st.partsBelow (s ++ b.text) = (LineState.afterAll {} us).afterBlank ∧
      st.blocks (s ++ b.text ++ g) =
        first ++ (last ++ textOf (cutBlocks (LineState.afterAll {} us) (st.headerTokens g)).1) ::
          (cutBlocks (LineState.afterAll {} us) (st.headerTokens g)).2.map textOf := by
  obtain ⟨us, hus, hd, hfresh, htok⟩ := exists_reads_above hst hs b hg
  have hne : us ≠ [] := by
    rintro rfl
    rw [blocks, htok] at h
    simp [blocksOf_nil] at h
  obtain ⟨first', last', hblocks, hall⟩ := blocksOf_append hne (st.headerTokens g)
  rw [blocks, htok, hblocks, List.map_append, List.map_singleton] at h
  obtain ⟨rfl, hlast⟩ := List.append_inj' h rfl
  refine ⟨us, hd, hfresh, hus.partsBelow, ?_⟩
  rw [blocks, hus.headerTokens hd, hall, List.map_append, List.map_cons, textOf_append,
    List.singleton_inj.1 hlast]

/-- Below a blank line a text keeps its blocks, and so does the header above. -/
theorem blocks_joined (hparts : st.header g = [] ∨ st.partsBelow (s ++ b.text) = true) :
    st.blocks (s ++ b.text ++ g) = first ++ last :: st.blocks g := by
  obtain ⟨us, hd, hfresh, hbelow, hall⟩ := exists_blocks_joined hst hs b hg h
  rw [hbelow] at hparts
  rw [hall, cutBlocks_of_parted hg hfresh hd hparts, textOf_nil, List.append_nil]
  rfl

/-- Without a blank line between them the last block of a header takes in the first block below. -/
theorem blocks_joined_of_not_parted (hheader : st.header g ≠ [])
    (hparts : st.partsBelow (s ++ b.text) = false) :
    ∃ x later, st.blocks g = x :: later ∧
      st.blocks (s ++ b.text ++ g) = first ++ (last ++ x) :: later := by
  obtain ⟨us, hd, hfresh, hbelow, hall⟩ := exists_blocks_joined hst hs b hg h
  rw [hbelow] at hparts
  rw [cutBlocks_of_continued hfresh hd hparts] at hall
  have hne : st.headerTokens g ≠ [] := fun htok => hheader (by rw [header, htok, textOf_nil])
  exact ⟨_, _, by rw [blocks, blocksOf_eq_cut hne, List.map_cons], hall⟩

end Joined

end Style
end Letterhead.Comment

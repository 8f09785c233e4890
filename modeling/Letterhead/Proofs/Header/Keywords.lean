import Letterhead.Proofs.Comment.LastBlock
import Letterhead.Proofs.Header.Existing
import Letterhead.Proofs.Text.Lower

/-
  The header that is found with keywords. It reaches through the last block that holds one, so no
  block of the rest does (`not_hasKeyword_rest`). Where a text begins with the header to write, it
  reaches at least through the block where that header ends, and how far this is beyond the header
  is decided by what follows: nothing (`existing_joined`), the comment that follows
  (`existing_joined_solid`), or its blank first line (`length_lt_existing_joined`).
-/

namespace Letterhead

open Letterhead.Comment

/-! ## Counting blocks -/

theorem countThroughLast_le_iff {α : Type} {test : α → Bool} {xs : List α} {n : Nat} :
    countThroughLast test xs ≤ n ↔ ∀ x ∈ xs.drop n, test x = false := by
  induction xs generalizing n with
  | nil => simp [countThroughLast]
  | cons a xs ih =>
    simp only [countThroughLast]
    cases n with
    | zero =>
      have hxs := ih (n := 0)
      rw [Nat.le_zero, List.drop_zero] at hxs
      rw [List.drop_zero, List.forall_mem_cons, ← hxs]
      split
      next h => cases ha : test a <;> simp [h]
      next m h => simp [h]
    | succ n =>
      rw [List.drop_succ_cons, ← ih]
      split
      next h =>
        rw [h]
        split <;> omega
      next m h => omega

/-- Entries are counted through one that satisfies the test if none behind it does. -/
theorem countThroughLast_append_cons {α : Type} {test : α → Bool} {x : α} (hx : test x = true)
    {ys : List α} (hys : ∀ y ∈ ys, test y = false) (xs : List α) :
    countThroughLast test (xs ++ x :: ys) = xs.length + 1 := by
  refine Nat.le_antisymm (countThroughLast_le_iff.2 ?_) (Nat.lt_of_not_le fun hle => ?_)
  · rw [List.drop_length_add_append, List.drop_succ_cons, List.drop_zero]
    exact hys
  · have hfails := countThroughLast_le_iff.1 hle x (by simp)
    rw [hx] at hfails
    cases hfails

/-- Blocks cover a number of characters up to the one in which the last of them stands. -/
theorem countCovering_append {ss : List Text} {s : Text} {n : Nat}
    (hss : ss.flatten.length < n) (hs : n ≤ ss.flatten.length + s.length) (zs : List Text) :
    countCovering n (ss ++ s :: zs) = ss.length + 1 := by
  induction ss generalizing n with
  | nil =>
    rw [List.flatten_nil, List.length_nil, Nat.zero_add] at hs
    rw [List.nil_append, countCovering, if_pos hs, List.length_nil]
  | cons a ss ih =>
    rw [List.flatten_cons, List.length_append] at hss hs
    rw [List.cons_append, countCovering, if_neg (by omega),
      ih (n := n - a.length) (by omega) (by omega), List.length_cons]

namespace HeaderRule

variable {r : HeaderRule}

/-- No block of the rest holds a keyword. -/
theorem not_hasKeyword_rest (hk : r.keywords ≠ []) (s : Text) :
    ∀ x ∈ r.style.blocks (r.rest s), r.hasKeyword x = false := by
  rw [r.blocks_rest s hk]
  exact countThroughLast_le_iff.1 (Nat.le_max_left _ _)

theorem prefix_of_beginsWithHeader {h s : Text} (hh : r.header = some h)
    (hs : r.beginsWithHeader s = true) : h <+: s := by
  cases hafter : Text.after? h s with
  | none =>
    cases h with
    | nil => exact List.nil_prefix
    | cons c h => simp [beginsWithHeader, hh, hafter] at hs
  | some rest => exact ⟨rest, (Text.eq_of_after? hafter).symm⟩

/-- Nothing is found where no block holds a keyword and the text does not begin with the header to
write. -/
theorem existing_of_no_keyword (hk : r.keywords ≠ []) {s : Text}
    (hnone : ∀ x ∈ r.style.blocks s, r.hasKeyword x = false)
    (hbegins : r.beginsWithHeader s = false) : r.existing s = [] := by
  have hcount : countThroughLast r.hasKeyword (r.style.blocks s) = 0 :=
    Nat.le_zero.1 (countThroughLast_le_iff.2 hnone)
  rw [existing, if_neg hk]
  dsimp only
  rw [ownBlocks, hcount, hbegins]
  rfl

/-- A keyword stays one when lines are written behind it. -/
theorem hasKeyword_append {s x : Text} (hx : ∀ c ∈ x.head?, isBreakChar c = true)
    (hs : r.hasKeyword s = true) : r.hasKeyword (s ++ x) = true := by
  simp only [hasKeyword, List.any_eq_true] at hs ⊢
  obtain ⟨k, hk, hpart⟩ := hs
  exact ⟨k, hk, Text.hasPart_lower_append hx hpart⟩

/-- A rule that writes no header finds the one that reaches through the last block with a
keyword. -/
theorem existing_through (hk : r.keywords ≠ []) (hh : r.header = none) {s : Text}
    {first later : List Text} {x : Text} (hs : r.style.blocks s = first ++ x :: later)
    (hx : r.hasKeyword x = true) (hlater : ∀ y ∈ later, r.hasKeyword y = false) :
    r.existing s = first.flatten ++ x := by
  have hbegins : r.beginsWithHeader s = false := by simp [beginsWithHeader, hh]
  rw [existing, if_neg hk]
  dsimp only
  rw [ownBlocks, hbegins, hs, countThroughLast_append_cons hx hlater]
  simp [List.take_length_add_append]

/-! ## Below the header to write

A text that begins with the header `h` to write, behind it line break characters `z` and a line
break, and then any text `g`. -/

section Joined

variable {lb : LineBreak} {h z : Text}

/-- A text begins with the header to write, as whole lines, when a line break or nothing follows. -/
theorem beginsWithHeader_append (hh : r.header = some h) (hne : h ≠ []) (g : Text) :
    r.beginsWithHeader (h ++ g) = g.head?.all isBreakChar := by
  have hafter := Text.after?_append h g
  unfold beginsWithHeader
  rw [hh]
  split
  next h' => cases h'
  next h' => exact absurd (Option.some.inj h') hne
  next h₀ _ h' =>
    obtain rfl : h = h₀ := Option.some.inj h'
    rw [hafter]
    cases g <;> rfl

theorem beginsWithHeader_of_break (hh : r.header = some h) (hne : h ≠ [])
    (hz : ∀ c ∈ z, isBreakChar c = true) (g : Text) :
    r.beginsWithHeader (h ++ z ++ (lb.text ++ g)) = true := by
  obtain ⟨c, y, hc⟩ : ∃ c y, z ++ lb.text = c :: y :=
    List.exists_cons_of_ne_nil (List.append_ne_nil_of_right_ne_nil z lb.text_ne)
  have hbreak : isBreakChar c = true :=
    (List.mem_append.1 (hc ▸ List.mem_cons_self)).elim (hz c) LineBreak.isBreakChar_of_mem_text
  rw [List.append_assoc, beginsWithHeader_append hh hne, ← List.append_assoc, hc]
  exact hbreak

/-- The header ends in the last block of the text before `g`: a block after the first begins with
a construct, and there is none behind the header. -/
theorem length_blocks_lt (hne : h ≠ []) {ts : List Token} {depth : Nat} {s g' y : Text}
    (hread : r.style.Reads depth s ts g') (hts : textOf ts = h ++ y)
    (hy : ∀ c ∈ y, isBreakChar c = true) {first : List (List Token)} {last : List Token}
    (hblocks : blocksOf ts = first ++ [last]) : (textOf first.flatten).length < h.length := by
  cases first with
  | nil => simpa using List.length_pos_iff.2 hne
  | cons b first =>
    by_contra hlen
    rw [Nat.not_lt] at hlen
    obtain ⟨t, last', rfl, hk⟩ := exists_construct_of_last hblocks (List.cons_ne_nil _ _)
    have hall := blocksOf_flatten ts
    rw [hblocks, List.flatten_append, List.flatten_singleton] at hall
    obtain ⟨c, hc, hsolid⟩ : ∃ c ∈ t.text, isBlank c = false :=
      hread.solid_of_mem (by rw [← hall]; simp) hk
    -- What stands behind the earlier blocks is part of the line breaks `y`.
    have hsuffix : c ∈ y := by
      have htext : textOf (b :: first).flatten ++ textOf (t :: last') = h ++ y := by
        rw [← textOf_append, hall, hts]
      rcases List.append_eq_append_iff.1 htext with ⟨x, hx, -⟩ | ⟨x, -, hx⟩
      · rw [hx, List.length_append] at hlen
        obtain rfl : x = [] := List.length_eq_zero_iff.1 (by omega)
        rw [List.append_nil] at hx
        rw [← hx] at htext
        rw [← List.append_cancel_left htext, textOf_cons]
        exact List.mem_append_left _ hc
      · rw [hx, textOf_cons]
        exact List.mem_append_right _ (List.mem_append_left _ hc)
    rw [isBlank_of_isBreakChar (hy c hsuffix)] at hsolid
    cases hsolid

/-- The text before `g` is read as the header and line break characters. -/
theorem exists_reads_joined {style : Style} (hst : style.MarkersInLine)
    (hz : ∀ c ∈ z, isBreakChar c = true) (hvalid : style.isHeader (h ++ z) = true)
    (lb : LineBreak) (g : Text) :
    ∃ ts g' y, style.Reads 0 (h ++ z ++ (lb.text ++ g)) ts g' ∧ depthAfter 0 ts = 0 ∧
      (LineState.afterAll {} ts).fresh = true ∧ (g' = g ∨ lb = .cr ∧ g = '\n' :: g') ∧
      textOf ts = h ++ y ∧ ∀ c ∈ y, isBreakChar c = true := by
  obtain ⟨ts, g', hread, hd, hfresh, hg⟩ := Style.exists_reads_line hst hvalid lb g
  have happend := hread.eq_append
  have hlb : ∀ c ∈ z ++ lb.text, isBreakChar c = true := fun c hc =>
    (List.mem_append.1 hc).elim (hz c) LineBreak.isBreakChar_of_mem_text
  rcases hg with rfl | ⟨rfl, rfl⟩
  · refine ⟨ts, g', z ++ lb.text, hread, hd, hfresh _, Or.inl rfl, ?_, hlb⟩
    refine List.append_cancel_right (happend.symm.trans ?_)
    simp only [List.append_assoc]
  · refine ⟨ts, g', z ++ LineBreak.cr.text ++ ['\n'], hread, hd, hfresh _, Or.inr ⟨rfl, rfl⟩,
      ?_, ?_⟩
    · refine List.append_cancel_right (happend.symm.trans ?_)
      simp only [List.append_assoc, List.singleton_append]
    · intro c hc
      rcases List.mem_append.1 hc with hc | hc
      · exact hlb c hc
      · rw [List.mem_singleton.1 hc]; rfl

/-- Where a text begins with the header to write, the header that is found takes the tokens through
the end of that header, those up to the next block, and perhaps further blocks if one of them holds
a keyword. -/
theorem existing_of_reads (hk : r.keywords ≠ []) (hh : r.header = some h) (hne : h ≠ [])
    {s g' y : Text} (hbegins : r.beginsWithHeader s = true) {ts : List Token}
    (hread : r.style.Reads 0 s ts g') (hd : depthAfter 0 ts = 0) (hts : textOf ts = h ++ y)
    (hy : ∀ c ∈ y, isBreakChar c = true) {mid : List Token} {later : List (List Token)}
    (hcut : cutBlocks (LineState.afterAll {} ts) (r.style.headerTokens g') = (mid, later)) :
    ∃ n, r.existing s = textOf ts ++ textOf mid ++ textOf (later.take n).flatten ∧
      ((∀ b ∈ later, r.hasKeyword (textOf b) = false) → n = 0) := by
  have hne' : ts ≠ [] := by
    rintro rfl
    rw [textOf_nil] at hts
    exact hne (List.append_eq_nil_iff.1 hts.symm).1
  obtain ⟨first, last, hblocks, hall⟩ := blocksOf_append hne' (r.style.headerTokens g')
  rw [hcut] at hall
  have htok := hread.headerTokens hd
  have hs : r.style.blocks s = first.map textOf ++ textOf (last ++ mid) :: later.map textOf := by
    rw [Style.blocks, htok, hall, List.map_append, List.map_cons]
  have hflat : first.flatten ++ last = ts := by
    have := blocksOf_flatten ts
    rwa [hblocks, List.flatten_append, List.flatten_singleton] at this
  -- The header ends in the block `last`, which goes on through `mid`.
  have hcover : countCovering h.length (r.style.blocks s) = first.length + 1 := by
    have hlt := length_blocks_lt hne hread hts hy hblocks
    have hle : h.length ≤ (textOf first.flatten).length + (textOf (last ++ mid)).length := by
      rw [← List.length_append, ← textOf_append, ← List.append_assoc, hflat, textOf_append, hts]
      simp only [List.length_append]
      omega
    rw [← textOf_flatten] at hlt hle
    rw [hs, countCovering_append hlt hle, List.length_map]
  have hown : r.ownBlocks s (r.style.blocks s) =
      max (countThroughLast r.hasKeyword (r.style.blocks s)) (first.length + 1) := by
    rw [ownBlocks, if_pos hbegins, hh, Option.getD_some, hcover]
  refine ⟨r.ownBlocks s (r.style.blocks s) - (first.length + 1), ?_, fun hlater => ?_⟩
  · rw [r.existing_of_keywords _ hk, htok, hall]
    obtain ⟨n, hn⟩ := Nat.exists_eq_add_of_le
      (hown ▸ Nat.le_max_right _ _ : first.length + 1 ≤ r.ownBlocks s (r.style.blocks s))
    have htake : (first ++ (last ++ mid) :: later).take (first.length + 1 + n) =
        first ++ (last ++ mid) :: later.take n := by
      rw [Nat.add_assoc, List.take_length_add_append, Nat.add_comm 1 n, List.take_succ_cons]
    rw [hn, htake, Nat.add_sub_cancel_left, List.flatten_append, List.flatten_cons,
      ← List.append_assoc, ← List.append_assoc, hflat, textOf_append, textOf_append]
  · have hle : countThroughLast r.hasKeyword (r.style.blocks s) ≤ first.length + 1 := by
      have hdrop : (r.style.blocks s).drop (first.length + 1) = later.map textOf := by
        rw [hs, ← List.length_map, List.drop_length_add_append, List.drop_succ_cons,
          List.drop_zero]
      rw [countThroughLast_le_iff, hdrop]
      intro x hx
      obtain ⟨b, hb, rfl⟩ := List.mem_map.1 hx
      exact hlater b hb
    omega

/-- Before a blank first line the header that is found goes on through that line. -/
theorem length_lt_existing_joined (hst : r.style.MarkersInLine) (hk : r.keywords ≠ [])
    (hh : r.header = some h) (hne : h ≠ []) (hz : ∀ c ∈ z, isBreakChar c = true)
    (hvalid : r.style.isHeader (h ++ z) = true) (lb : LineBreak) {g : Text}
    (hg : Text.startsBlank g = true) :
    (h ++ z ++ lb.text).length < (r.existing (h ++ z ++ (lb.text ++ g))).length := by
  obtain ⟨ts, g', y, hread, hd, hfresh, hg', hts, hy⟩ :=
    exists_reads_joined hst hz hvalid lb g
  obtain ⟨n, hexisting, -⟩ := existing_of_reads hk hh hne
    (beginsWithHeader_of_break hh hne hz g) hread hd hts hy rfl
  have happend := congrArg List.length hread.eq_append
  rw [hexisting]
  simp only [List.length_append] at happend ⊢
  rcases hg' with rfl | ⟨-, rfl⟩
  · obtain ⟨t, us, htok, hkind, htext⟩ := r.style.headerTokens_of_startsBlank hg
    have hopens : (LineState.afterAll {} ts).opens t = false := by
      rw [Bool.eq_false_iff]
      intro ho
      rw [(LineState.opens_iff.1 ho).1] at hkind
      cases hkind
    have hpos := List.length_pos_iff.2 htext
    rw [htok, cutBlocks_cons_of_not_opens hopens]
    simp only [textOf_cons, List.length_append]
    omega
  · simp only [List.length_cons] at happend
    omega

/-- Before a first line that is not blank the text is read as it stands. -/
theorem reads_joined_of_solid {ts : List Token} {g g' : Text}
    (hread : r.style.Reads 0 (h ++ z ++ (lb.text ++ g)) ts g')
    (hg' : g' = g ∨ lb = .cr ∧ g = '\n' :: g') (hg : Text.startsBlank g = false) :
    g' = g ∧ textOf ts = h ++ z ++ lb.text ∧
      r.style.partsBelow (h ++ z ++ lb.text) = (LineState.afterAll {} ts).afterBlank := by
  rcases hg' with rfl | ⟨-, rfl⟩
  · rw [← List.append_assoc] at hread
    exact ⟨rfl, List.append_cancel_right hread.eq_append.symm, hread.partsBelow⟩
  · rw [Text.startsBlank_lf] at hg
    cases hg

/-- The header that is found is the text before `g` when a comment there is a block of its own and
no block there holds a keyword. -/
theorem existing_joined (hst : r.style.MarkersInLine) (hk : r.keywords ≠ [])
    (hh : r.header = some h) (hne : h ≠ []) (hz : ∀ c ∈ z, isBreakChar c = true)
    (hvalid : r.style.isHeader (h ++ z) = true) {g : Text} (hg : Text.startsBlank g = false)
    (hnone : ∀ x ∈ r.style.blocks g, r.hasKeyword x = false)
    (hparts : r.style.header g = [] ∨ r.style.partsBelow (h ++ z ++ lb.text) = true) :
    r.existing (h ++ z ++ (lb.text ++ g)) = h ++ z ++ lb.text := by
  obtain ⟨ts, g', y, hread, hd, hfresh, hg', hts, hy⟩ :=
    exists_reads_joined hst hz hvalid lb g
  obtain ⟨rfl, htext, hbelow⟩ := reads_joined_of_solid hread hg' hg
  rw [hbelow] at hparts
  have hcut := Style.cutBlocks_of_parted hg hfresh hd hparts
  obtain ⟨n, hexisting, hn⟩ := existing_of_reads hk hh hne
    (beginsWithHeader_of_break hh hne hz g') hread hd hts hy hcut
  have hzero := hn fun b hb => hnone _ (List.mem_map_of_mem hb)
  rw [hexisting, hzero, htext]
  simp

/-- The header that is found goes on through a comment that is no block of its own. -/
theorem existing_joined_solid (hst : r.style.MarkersInLine) (hk : r.keywords ≠ [])
    (hh : r.header = some h) (hne : h ≠ []) (hz : ∀ c ∈ z, isBreakChar c = true)
    (hvalid : r.style.isHeader (h ++ z) = true) {g : Text} (hg : Text.startsBlank g = false)
    (hheader : r.style.header g ≠ [])
    (hparts : r.style.partsBelow (h ++ z ++ lb.text) = false) :
    ∃ x, r.existing (h ++ z ++ (lb.text ++ g)) = h ++ z ++ lb.text ++ x ∧
      ∃ c ∈ x, isBlank c = false := by
  obtain ⟨ts, g', y, hread, hd, hfresh, hg', hts, hy⟩ :=
    exists_reads_joined hst hz hvalid lb g
  obtain ⟨rfl, htext, hbelow⟩ := reads_joined_of_solid hread hg' hg
  obtain ⟨n, hexisting, -⟩ := existing_of_reads hk hh hne
    (beginsWithHeader_of_break hh hne hz g') hread hd hts hy rfl
  rw [hbelow] at hparts
  obtain ⟨t, mid, later, hcut, c, hc, hsolid⟩ := Style.cutBlocks_of_not_parted hg hheader hparts
  rw [hcut, htext] at hexisting
  refine ⟨_, hexisting.trans (List.append_assoc _ _ _), c, List.mem_append_left _ ?_, hsolid⟩
  rw [textOf_cons]
  exact List.mem_append_left _ hc

end Joined

end HeaderRule
end Letterhead

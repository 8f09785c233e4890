import Letterhead.Proofs.Comment.Reading

/-
  The header of a text and what is below it. A reading from the start of a text that leaves no
  region open is part of the header, and what the text has of header, open blocks and open regions
  behind it is what the rest has on its own (`Reads.header`, `Reads.below_eq`, `Reads.stop`). The
  header itself is such a reading (`reads_header`), so nothing is left to recognise below it, and a
  text is a header exactly when such a reading takes all of it (`isHeader_iff`).
-/

namespace Letterhead.Comment

/-! ## Settled tokens -/

theorem settled_append {depth : Nat} {ts : List Token} (h : depthAfter depth ts = 0)
    (us : List Token) : settled depth (ts ++ us) = ts ++ settled 0 us := by
  induction ts generalizing depth with
  | nil =>
    rw [depthAfter_nil] at h
    rw [h, List.nil_append, List.nil_append]
  | cons t ts ih =>
    rw [depthAfter_cons] at h
    simp only [List.cons_append, settled, ih h]
    by_cases hd : t.kind.depthAfter depth = 0
    · rw [if_pos hd]
    · rw [if_neg hd]
      have hne : ts ++ settled 0 us ≠ [] := by
        intro hnil
        rw [(List.append_eq_nil_iff.1 hnil).1, depthAfter_nil] at h
        exact hd h
      cases hts : ts ++ settled 0 us with
      | nil => exact absurd hts hne
      | cons u vs => rfl

theorem depthAfter_settled_or_nil (depth : Nat) (ts : List Token) :
    settled depth ts = [] ∨ depthAfter depth (settled depth ts) = 0 := by
  induction ts generalizing depth with
  | nil => exact Or.inl rfl
  | cons t ts ih =>
    simp only [settled]
    have ht := ih (t.kind.depthAfter depth)
    by_cases hd : t.kind.depthAfter depth = 0
    · rw [if_pos hd, depthAfter_cons, hd]
      rw [hd] at ht
      rcases ht with hnil | hzero
      · rw [hnil]; exact Or.inr rfl
      · exact Or.inr hzero
    · rw [if_neg hd]
      cases hts : settled (t.kind.depthAfter depth) ts with
      | nil => exact Or.inl rfl
      | cons u us =>
        rw [hts] at ht
        exact Or.inr (ht.resolve_left (List.cons_ne_nil u us))

theorem depthAfter_settled (ts : List Token) : depthAfter 0 (settled 0 ts) = 0 := by
  rcases depthAfter_settled_or_nil 0 ts with h | h
  · rw [h, depthAfter_nil]
  · exact h

namespace Style

variable {st : Style} {depth : Nat} {s r r' : Text} {t : Token} {ts us : List Token}

/-! ## Readings that leave no region open -/

theorem Reads.headerTokens (h : st.Reads 0 s ts r) (hd : depthAfter 0 ts = 0) :
    st.headerTokens s = ts ++ st.headerTokens r := by
  unfold Style.headerTokens
  rw [h.run_eq, hd, settled_append hd]

theorem Reads.header (h : st.Reads 0 s ts r) (hd : depthAfter 0 ts = 0) :
    st.header s = textOf ts ++ st.header r := by
  unfold Style.header
  rw [h.headerTokens hd, textOf_append]

theorem Reads.stop (h : st.Reads 0 s ts r) (hd : depthAfter 0 ts = 0) :
    (st.run 0 s).stop = (st.run 0 r).stop := by
  rw [h.run_eq, hd]

theorem Reads.hasUnclosedBlock (h : st.Reads 0 s ts r) (hd : depthAfter 0 ts = 0) :
    st.hasUnclosedBlock s = st.hasUnclosedBlock r := by
  unfold Style.hasUnclosedBlock
  rw [h.stop hd]

theorem Reads.isBalanced (h : st.Reads 0 s ts r) (hd : depthAfter 0 ts = 0) :
    st.isBalanced s = st.isBalanced r := by
  unfold Style.isBalanced
  rw [h.hasUnclosedBlock hd, h.run_eq, hd, depthAfter_append, hd]

/-- The text below the header. -/
def below (st : Style) (s : Text) : Text := s.drop (st.header s).length

theorem header_append_below (st : Style) (s : Text) : st.header s ++ st.below s = s :=
  List.prefix_iff_eq_append.1 (st.header_prefix s)

theorem Reads.below_eq (h : st.Reads 0 s ts r) (hd : depthAfter 0 ts = 0) :
    st.below s = st.below r := by
  have hs := st.header_append_below s
  rw [h.header hd, List.append_assoc] at hs
  have hr := List.append_cancel_left (hs.trans h.eq_append)
  exact List.append_cancel_left (hr.trans (st.header_append_below r).symm)

theorem depthAfter_headerTokens (st : Style) (s : Text) :
    depthAfter 0 (st.headerTokens s) = 0 := depthAfter_settled _

/-- The header is read from the text, and what it leaves is below it. -/
theorem reads_header (st : Style) (s : Text) :
    st.Reads 0 s (st.headerTokens s) (st.below s) := by
  obtain ⟨us, hus⟩ := settled_prefix 0 (st.run 0 s).tokens
  have h := st.reads_run 0 s
  rw [← hus] at h
  obtain ⟨r, hr, -⟩ := h.split
  have hs : textOf (st.headerTokens s) ++ st.below s = textOf (st.headerTokens s) ++ r :=
    (st.header_append_below s).trans hr.eq_append
  rw [List.append_cancel_left hs]
  exact hr

/-- Nothing is left to recognise below a header. -/
theorem headerTokens_below (st : Style) (s : Text) : st.headerTokens (st.below s) = [] := by
  have h := (st.reads_header s).headerTokens (st.depthAfter_headerTokens s)
  exact List.append_cancel_left (h.symm.trans (List.append_nil _).symm)

theorem header_below (st : Style) (s : Text) : st.header (st.below s) = [] := by
  unfold header
  rw [headerTokens_below, textOf_nil]

/-! ## Headers by themselves -/

theorem isHeader_eq_true_iff :
    st.isHeader s = true ↔ st.isBalanced s = true ∧ st.header s = s := by
  rw [isHeader, Bool.and_eq_true, beq_iff_eq]

theorem isHeader_of_reads (h : st.Reads 0 s ts []) (hd : depthAfter 0 ts = 0) :
    st.isHeader s = true := by
  have hnil : st.header [] = [] := by
    have := st.header_append_below []
    exact (List.append_eq_nil_iff.1 this).1
  unfold Style.isHeader
  rw [h.isBalanced hd, h.header hd, hnil, ← h.eq_append]
  simp [Style.isBalanced, Style.hasUnclosedBlock, run_nil]

theorem isHeader_of_next (h : st.next 0 s = .ok (t, [])) (hd : t.kind.depthAfter 0 = 0) :
    st.isHeader s = true :=
  isHeader_of_reads (.step (next_eq_ok_iff.1 h) .done) hd

/-- A text is a header exactly when a reading takes all of it and leaves no region open. -/
theorem isHeader_iff : st.isHeader s = true ↔ ∃ ts, st.Reads 0 s ts [] ∧ depthAfter 0 ts = 0 := by
  constructor
  · intro h
    have hs := (isHeader_eq_true_iff.1 h).2
    have hb : st.below s = [] := by
      have := st.header_append_below s
      rw [hs] at this
      exact List.append_right_eq_self.1 this
    refine ⟨st.headerTokens s, ?_, st.depthAfter_headerTokens s⟩
    rw [← hb]
    exact st.reads_header s
  · rintro ⟨ts, h, hd⟩
    exact isHeader_of_reads h hd

/-- A header is its blocks. -/
theorem flatten_blocks_of_isHeader (hs : st.isHeader s = true) : (st.blocks s).flatten = s := by
  rw [blocks_flatten, (isHeader_eq_true_iff.1 hs).2]

/-- What a reading takes is a header by itself, when it leaves no region open. -/
theorem Reads.isHeader_textOf (h : st.Reads 0 s ts r) (hd : depthAfter 0 ts = 0) :
    st.isHeader (textOf ts) = true := by
  have := h.shorten List.nil_prefix
  rw [List.append_nil] at this
  exact isHeader_of_reads this hd

end Style
end Letterhead.Comment

import Letterhead.Proofs.Comment.Blocks

/-
  The seam between a header and the text below it. When no marker holds a line break character, a
  header stays one when a line break is written behind it, and any text behind that keeps what is
  below its own header and whether a block comment is left open (`below_append_line`,
  `hasUnclosedBlock_append_line`). The one thing that can happen at the seam is that CR, written
  before a text that begins with LF, becomes one line break with it.
-/

namespace Letterhead.Comment

/-- A token of this kind ends its line. -/
def Kind.endsLine : Kind → Bool
  | lineBreak | line | regionStart | regionEnd => true
  | block | space => false

theorem Opening.endsLine_of_lineKind? {o : Opening} {kind : Kind} (h : o.lineKind? = some kind) :
    kind.endsLine = true := by
  cases o <;> simp only [lineKind?, Option.some.injEq, reduceCtorEq] at h <;> rw [← h] <;> rfl

theorem LineState.after_fresh {t : Token} (l : LineState) (h : t.kind.endsLine = true) :
    (l.after t).fresh = true := by
  obtain ⟨gap, kind, body⟩ := t
  cases kind <;> simp_all [Kind.endsLine, LineState.after]

/-! ## Tokens with a line break behind them -/

/-- The token `u` stands where the last token `t` of a text did, before a line break was written
behind the text: it goes on over that line break. -/
structure GoesOn (b : LineBreak) (t u : Token) : Prop where
  text_eq : u.text = t.text ++ b.text
  isBlank_eq : u.kind.isBlank = t.kind.isBlank
  depthAfter_eq : u.kind.depthAfter = t.kind.depthAfter
  endsLine : u.kind.endsLine = true

/-- The tokens of a text with a line break behind it: the line break is a token by itself, or the
last token goes on over it. -/
inductive Lengthened (b : LineBreak) : List Token → List Token → Prop
  | line : Lengthened b [] [⟨[], .lineBreak, b.text⟩]
  | last {t u : Token} (h : GoesOn b t u) : Lengthened b [t] [u]
  | cons {t : Token} {ts us : List Token} (h : Lengthened b ts us) :
      Lengthened b (t :: ts) (t :: us)

theorem Lengthened.ne_nil {b : LineBreak} {ts us : List Token} (h : Lengthened b ts us) :
    us ≠ [] := by
  cases h <;> exact List.cons_ne_nil _ _

theorem Lengthened.depthAfter {b : LineBreak} {ts us : List Token} (h : Lengthened b ts us)
    (depth : Nat) : depthAfter depth us = depthAfter depth ts := by
  induction h generalizing depth with
  | line => rfl
  | last hu => rw [depthAfter_cons, depthAfter_cons, hu.depthAfter_eq]
  | cons _ ih => exact ih _

theorem Lengthened.fresh {b : LineBreak} {ts us : List Token} (h : Lengthened b ts us)
    (l : LineState) : (l.afterAll us).fresh = true := by
  induction h generalizing l with
  | line =>
    rw [LineState.afterAll_cons, LineState.afterAll_nil]
    exact l.after_fresh rfl
  | last hu => exact l.after_fresh hu.endsLine
  | cons _ ih => exact ih _

namespace Style

variable {st : Style} {depth : Nat} {s r r' x : Text} {t : Token} {ts us : List Token}
  {b : LineBreak}

/-- No marker that opens a token holds a line break character. The closing delimiter of a block
may hold one. -/
def MarkersInLine (st : Style) : Prop := ∀ o ∈ st.openings, Text.Unbroken o.1

instance (st : Style) : Decidable st.MarkersInLine :=
  decidable_of_iff (st.openings.all fun o => o.1.all fun c => !isBreakChar c) (by
    simp [MarkersInLine, Text.Unbroken])

/-- No marker of a style holds a line break character, and no closing delimiter of a block does. -/
structure MarksInLine (st : Style) : Prop where
  openings : st.MarkersInLine
  closing : ∀ d ∈ st.block, Text.Unbroken d.closing

instance (st : Style) : Decidable st.MarksInLine :=
  decidable_of_iff
    (st.MarkersInLine ∧ ∀ d ∈ st.block, (d.closing.all fun c => !isBreakChar c) = true)
    ⟨fun h => ⟨h.1, by simpa [Text.Unbroken] using h.2⟩,
      fun h => ⟨h.openings, by simpa [Text.Unbroken] using h.closing⟩⟩

theorem mem_openings_of_opening? {m : Text} {o : Opening} (h : st.opening? s = some (m, o)) :
    (m, o) ∈ st.openings :=
  (List.mem_filter.1 (mem_of_firstLargest? h)).1

/-- The closing delimiter that a block reaches to is that of the style. -/
theorem exists_block_of_opening? {m c : Text} (h : st.opening? s = some (m, .block c)) :
    ∃ d, st.block = some d ∧ d.closing = c := by
  have hmem := mem_openings_of_opening? h
  simp only [openings, List.mem_append, Option.mem_toList, Option.map_eq_some_iff, Prod.mk.injEq,
    reduceCtorEq, and_false, exists_false, false_or, or_false, Opening.block.injEq] at hmem
  obtain ⟨d, hd, -, hc⟩ := hmem
  exact ⟨d, hd, hc⟩

theorem MarksInLine.unbroken_marker {m : Text} {o : Opening} (hst : st.MarksInLine)
    (h : st.opening? s = some (m, o)) : Text.Unbroken m :=
  hst.openings (m, o) (mem_openings_of_opening? h)

theorem prefix_append_unbroken {mark : Text} (hm : Text.Unbroken mark)
    (hx : LineBreak.take? x = some (b, r)) : mark <+: s ++ x ↔ mark <+: s := by
  refine ⟨fun h => ?_, fun h => h.trans (List.prefix_append s x)⟩
  rcases List.prefix_or_prefix_of_prefix h (List.prefix_append s x) with hs | ⟨z, rfl⟩
  · exact hs
  · -- The part of the mark behind `s` would begin with the line break.
    cases z with
    | nil => simp
    | cons c z =>
      obtain ⟨c', x', rfl, hc'⟩ := LineBreak.head_of_take? hx
      have hz := (List.prefix_append_right_inj s).1 h
      have hc : isBreakChar c = false := hm c (by simp)
      rw [(List.cons_prefix_cons.1 hz).1, hc'] at hc
      cases hc

theorem opening?_append (hst : st.MarkersInLine) (hx : LineBreak.take? x = some (b, r)) :
    st.opening? (s ++ x) = st.opening? s := by
  unfold opening?
  congr 1
  refine List.filter_congr fun o ho => ?_
  rw [Bool.eq_iff_iff, Text.beginsWith_iff, Text.beginsWith_iff]
  exact prefix_append_unbroken (hst o ho) hx

/-! ## A line break behind a text -/

/-- A token keeps when a line break is written behind the text, or it was the last one and goes on
over that line break. -/
theorem Takes.extend (hst : st.MarkersInLine) (h : st.Takes depth s t r)
    (hx : LineBreak.take? x = some (b, r')) :
    st.Takes depth (s ++ x) t (r ++ x) ∨
      r = [] ∧ ∃ u, st.Takes depth (s ++ x) u r' ∧ GoesOn b t u := by
  have hx' := LineBreak.eq_of_take? hx
  -- The text of a token that goes on is settled by what is read.
  have goesOn {u : Token} (hr : r = []) (hu : st.Takes depth (s ++ x) u r')
      (hblank : u.kind.isBlank = t.kind.isBlank)
      (hd : u.kind.depthAfter = t.kind.depthAfter) (hends : u.kind.endsLine = true) :
      r = [] ∧ ∃ u, st.Takes depth (s ++ x) u r' ∧ GoesOn b t u := by
    refine ⟨hr, u, hu, ?_, hblank, hd, hends⟩
    have htext := hu.eq_append
    rw [h.eq_append, hr, List.append_nil, hx', ← List.append_assoc] at htext
    exact (List.append_cancel_right htext).symm
  cases h with
  | space hg hne =>
    have hu : st.Takes depth (s ++ x) ⟨s, .lineBreak, b.text⟩ r' := by
      rw [hx'] at hx ⊢
      exact .lineBreak hg hx
    exact Or.inr (goesOn rfl hu rfl rfl rfl)
  | @lineBreak g r b₀ hg hb =>
    rcases LineBreak.take?_extend hb hx with hb' | ⟨rfl, b₂, -, hb', he⟩
    · rw [List.append_assoc, List.append_assoc]
      exact Or.inl (.lineBreak hg hb')
    · have hu : st.Takes depth (g ++ (b₀.text ++ []) ++ x) ⟨g, .lineBreak, b₂.text⟩ r' := by
        rw [List.append_assoc, List.append_assoc, List.nil_append, ← he]
        rw [← he] at hb'
        exact .lineBreak hg hb'
      exact Or.inr (goesOn rfl hu rfl rfl rfl)
  | @line g m y r o kind hg hm ho hk hd hy =>
    have hends := Opening.endsLine_of_lineKind? hk
    have ho' : st.opening? (m ++ (y ++ r) ++ x) = some (m, o) := (opening?_append hst hx).trans ho
    rcases Text.cutLine_extend hy hx with hy' | ⟨rfl, hy'⟩
    · refine Or.inl ?_
      simp only [List.append_assoc] at ho' hy' ⊢
      exact .line hg hm ho' hk hd hy'
    · have hu : st.Takes depth (g ++ (m ++ (y ++ [])) ++ x) ⟨g, kind, m ++ (y ++ b.text)⟩ r' := by
        rw [hx'] at ho' hy' ⊢
        simp only [List.append_assoc, List.append_nil] at ho' hy' ⊢
        rw [← List.append_assoc y] at ho' hy' ⊢
        exact .line hg hm ho' hk hd hy'
      exact Or.inr (goesOn rfl hu rfl rfl hends)
  | @block g m y c r hg hm ho hy =>
    have ho' := (opening?_append (s := m ++ (y ++ (c ++ r))) hst hx).trans ho
    simp only [List.append_assoc] at ho'
    have h' : st.Takes depth _ _ _ := .block hg hm ho' (Text.cutAt?_congr hy (r ++ x))
    exact Or.inl (by simpa only [List.append_assoc] using h')

theorem Reads.eq_nil (h : st.Reads depth [] ts r) : ts = [] := by
  cases h with
  | done => rfl
  | step ht _ => exact absurd rfl ht.ne_nil

/-- A reading of a whole text goes on over the line break behind it. -/
theorem Reads.extend (hst : st.MarkersInLine) (h : st.Reads depth s ts [])
    (hx : LineBreak.take? x = some (b, r')) :
    ∃ us, st.Reads depth (s ++ x) us r' ∧ Lengthened b ts us := by
  generalize hrest : ([] : Text) = rest at h
  induction h with
  | done =>
    subst hrest
    have hx' := LineBreak.eq_of_take? hx
    rw [hx'] at hx ⊢
    exact ⟨_, .step (.lineBreak gap_nil hx) .done, .line⟩
  | @step depth s r rest t ts ht h ih =>
    rcases ht.extend hst hx with ht' | ⟨rfl, u, hu, hgoes⟩
    · obtain ⟨us, hus, hlong⟩ := ih hrest
      exact ⟨t :: us, .step ht' hus, .cons hlong⟩
    · obtain rfl := h.eq_nil
      exact ⟨[u], .step hu .done, .last hgoes⟩

/-! ## Headers with a line break behind them -/

/-- A header and a line break are read whole before any text, up to a CR and LF that meet. -/
theorem exists_reads_line (hst : st.MarkersInLine) (hs : st.isHeader s = true) (b : LineBreak)
    (r : Text) :
    ∃ us r', st.Reads 0 (s ++ (b.text ++ r)) us r' ∧ depthAfter 0 us = 0 ∧
      (∀ l : LineState, (l.afterAll us).fresh = true) ∧
      (r' = r ∨ b = .cr ∧ r = '\n' :: r') := by
  obtain ⟨ts, hts, hd⟩ := isHeader_iff.1 hs
  rcases LineBreak.exists_take?_append b r with hb | ⟨rfl, r', rfl, hb⟩
  · obtain ⟨us, hus, hlong⟩ := hts.extend hst hb
    exact ⟨us, r, hus, (hlong.depthAfter 0).trans hd, hlong.fresh, Or.inl rfl⟩
  · obtain ⟨us, hus, hlong⟩ := hts.extend hst hb
    exact ⟨us, r', hus, (hlong.depthAfter 0).trans hd, hlong.fresh, Or.inr ⟨rfl, rfl⟩⟩

theorem reads_lf (st : Style) (r : Text) :
    st.Reads 0 ('\n' :: r) [⟨[], .lineBreak, LineBreak.lf.text⟩] r :=
  have h : st.Takes 0 ([] ++ (LineBreak.lf.text ++ r)) _ r := .lineBreak gap_nil rfl
  .step h .done

theorem below_append_line (hst : st.MarkersInLine) (hs : st.isHeader s = true) (b : LineBreak)
    (r : Text) : st.below (s ++ (b.text ++ r)) = st.below r := by
  obtain ⟨us, r', hus, hd, -, rfl | ⟨-, rfl⟩⟩ := exists_reads_line hst hs b r
  · exact hus.below_eq hd
  · rw [hus.below_eq hd, (st.reads_lf r').below_eq rfl]

theorem hasUnclosedBlock_append_line (hst : st.MarkersInLine) (hs : st.isHeader s = true)
    (b : LineBreak) (r : Text) :
    st.hasUnclosedBlock (s ++ (b.text ++ r)) = st.hasUnclosedBlock r := by
  obtain ⟨us, r', hus, hd, -, rfl | ⟨-, rfl⟩⟩ := exists_reads_line hst hs b r
  · exact hus.hasUnclosedBlock hd
  · rw [hus.hasUnclosedBlock hd, (st.reads_lf r').hasUnclosedBlock rfl]

theorem isHeader_append_line (hst : st.MarkersInLine) (hs : st.isHeader s = true)
    (b : LineBreak) : st.isHeader (s ++ b.text) = true := by
  obtain ⟨us, r', hus, hd, -, rfl | ⟨-, h⟩⟩ := exists_reads_line hst hs b []
  · rw [List.append_nil] at hus
    exact isHeader_of_reads hus hd
  · cases h

end Style
end Letterhead.Comment

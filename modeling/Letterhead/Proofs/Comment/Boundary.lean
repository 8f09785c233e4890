import Letterhead.Language.BuiltIn
import Letterhead.Proofs.Comment.Grammar
import Letterhead.Proofs.Comment.LastBlock
import Letterhead.Proofs.Comment.Spans
import Letterhead.Proofs.Text.Line

/-
  Where the blocks of a header begin. By the documented rule (`Style.BlockBegins`) this is below a
  blank line, outside block comments and open regions, where a construct follows on the line. The
  rule speaks of the text and of what covers an offset; the state of the line by which the tokens
  are cut says the same (`Reads.fresh_iff`, `Reads.afterBlank_iff`, `blockBegins_iff`). The blocks
  partition the header, and the text cut at a boundary has the blocks of the whole on either side
  (`blocks_partition_header`).
-/

namespace Letterhead.Comment

/-! ## Cuts of a token list -/

variable {l : LineState} {t : Token} {ts us vs : List Token}

/-- Where a token opens a block, those before it and those from it on have the blocks that they
have by themselves. -/
theorem blocksOf_append_of_opens (h : (LineState.afterAll {} us).opens t = true)
    (vs : List Token) : blocksOf (us ++ t :: vs) = blocksOf us ++ blocksOf (t :: vs) ∧ blocksOf us ≠ [] := by
  have hne : us ≠ [] := by
    rintro rfl
    rw [LineState.afterAll_nil, LineState.opens_start] at h
    cases h
  obtain ⟨first, last, hus, hall⟩ := blocksOf_append hne (t :: vs)
  rw [cutBlocks_of_opens h, List.append_nil] at hall
  rw [hall, hus]
  exact ⟨by rw [List.append_assoc]; rfl, by simp⟩

theorem exists_opens_of_mem_cut {before later : List (List Token)} {b : List Token}
    (h : (cutBlocks l ts).2 = before ++ b :: later) :
    ∃ t b', b = t :: b' ∧ (l.afterAll ((cutBlocks l ts).1 ++ before.flatten)).opens t = true := by
  induction ts generalizing l before with
  | nil => simp [cutBlocks] at h
  | cons a ts ih =>
    cases ho : l.opens a with
    | true =>
      rw [cutBlocks_cons_of_opens ho] at h ⊢
      cases before with
      | nil =>
        obtain ⟨rfl, -⟩ := List.cons.inj h
        exact ⟨a, _, rfl, ho⟩
      | cons b₀ before =>
        obtain ⟨rfl, hbefore⟩ := List.cons.inj h
        exact ih hbefore
    | false =>
      rw [cutBlocks_cons_of_not_opens ho] at h ⊢
      exact ih h

/-- A block behind others begins with a token that opens it. -/
theorem exists_opens_of_cut {first later : List (List Token)} (h : blocksOf ts = first ++ later)
    (hfirst : first ≠ []) (hlater : later ≠ []) :
    ∃ t vs, ts = first.flatten ++ t :: vs ∧
      (LineState.afterAll {} first.flatten).opens t = true := by
  obtain ⟨b, later, rfl⟩ := List.exists_cons_of_ne_nil hlater
  obtain ⟨b₀, first, rfl⟩ := List.exists_cons_of_ne_nil hfirst
  have hts : ts ≠ [] := by
    rintro rfl
    simp [blocksOf_nil] at h
  obtain ⟨a, ts, rfl⟩ := List.exists_cons_of_ne_nil hts
  have hflat := blocksOf_flatten (a :: ts)
  rw [blocksOf_cons] at h
  obtain ⟨hhead, hrest⟩ := List.cons.inj h
  obtain ⟨t, b', rfl, ho⟩ := exists_opens_of_mem_cut hrest
  rw [hhead, ← List.flatten_cons] at ho
  refine ⟨t, b' ++ later.flatten, ?_, ho⟩
  rw [← hflat, blocksOf_cons, h, List.flatten_append]
  rfl

/-! ## Where lines begin -/

namespace LineState

theorem after_fresh_eq (l : LineState) (hk : t.kind ≠ .space) :
    (l.after t).fresh = t.kind.endsLine := by
  obtain ⟨gap, kind, body⟩ := t
  cases kind with
  | space => exact absurd rfl hk
  | lineBreak | line | block | regionStart | regionEnd => rfl

/-- Behind a token that is more than blank space a blank line precedes when the token is the line
break that ends one. -/
theorem after_afterBlank_iff (hk : t.kind ≠ .space) (hl : l.afterBlank = true → l.fresh = true) :
    (l.after t).afterBlank = true ↔ t.kind = .lineBreak ∧ l.fresh = true := by
  obtain ⟨gap, kind, body⟩ := t
  cases kind with
  | lineBreak => simpa [after] using hl
  | space => exact absurd rfl hk
  | line | block | regionStart | regionEnd => simp [after]

/-- Below a blank line no construct stands on the line yet. -/
theorem fresh_of_afterBlank (ts : List Token) (hl : l.afterBlank = true → l.fresh = true)
    (h : (l.afterAll ts).afterBlank = true) : (l.afterAll ts).fresh = true := by
  induction ts generalizing l with
  | nil => exact hl h
  | cons t ts ih =>
    refine ih (l := l.after t) ?_ h
    obtain ⟨gap, kind, body⟩ := t
    cases kind <;> simp_all [after]

end LineState

namespace Style

variable {st : Style} {depth : Nat} {s r r' : Text}

theorem Takes.kind_ne (h : st.Takes depth s t r) (hr : r ≠ []) : t.kind ≠ .space := by
  rcases h.lexes_or_space with hlexes | ⟨-, -, hnil⟩
  · exact hlexes.kind_ne
  · exact absurd hnil hr

/-- Behind a token with more text behind it a line begins exactly when the token ends one. -/
theorem Takes.lineStart_iff (hst : st.MarksInLine) (h : st.Takes depth s t r) (hr : r ≠ [])
    (x : Text) : Text.LineStart (x ++ t.text) r ↔ t.kind.endsLine = true := by
  cases h with
  | space => exact absurd rfl hr
  | @lineBreak g r b hg hb =>
    rw [Token.text, ← List.append_assoc]
    exact iff_of_true (Text.lineStart_lineBreak (LineBreak.take?_eq_iff.1 hb) _) rfl
  | @line g m y r o kind hg hm ho hk hd hy =>
    refine iff_of_true ?_ (Opening.endsLine_of_lineKind? hk)
    cases Text.cutLine_eq_iff.1 hy with
    | last => exact absurd rfl hr
    | @broken w _ b hw hb =>
      rw [Token.text, ← List.append_assoc m, ← List.append_assoc g, ← List.append_assoc x]
      exact Text.lineStart_lineBreak hb _
  | @block g m y c r hg hm ho hy =>
    obtain ⟨d, hd, rfl⟩ := exists_block_of_opening? ho
    refine iff_of_false ?_ Bool.false_ne_true
    rw [Token.text, ← List.append_assoc g, ← List.append_assoc x]
    exact Text.not_lineStart_of_unbroken (hst.closing d hd) d.closing_ne _ _

/-- Behind tokens with more text behind them a line begins exactly when no construct stands on the
line yet. -/
theorem Reads.fresh_iff (hst : st.MarksInLine) (h : st.Reads 0 s us r) (hr : r ≠ []) :
    (LineState.afterAll {} us).fresh = true ↔ Text.LineStart (textOf us) r := by
  rcases List.eq_nil_or_concat us with rfl | ⟨us, t, rfl⟩
  · exact iff_of_true rfl (Text.lineStart_nil r)
  · rw [List.concat_eq_append] at h ⊢
    obtain ⟨r', -, ht⟩ := h.split_last
    rw [textOf_append, textOf_cons, textOf_nil, List.append_nil, ht.lineStart_iff hst hr,
      LineState.afterAll_append, LineState.afterAll_cons, LineState.afterAll_nil,
      LineState.after_fresh_eq _ (ht.kind_ne hr)]

/-- A construct stands on the line only when it ends with a closing delimiter. -/
theorem Reads.exists_closing (h : st.Reads 0 s us r) (hr : r ≠ [])
    (hfresh : (LineState.afterAll {} us).fresh = false) :
    ∃ d ∈ st.block, ∃ x, textOf us = x ++ d.closing := by
  rcases List.eq_nil_or_concat us with rfl | ⟨us, t, rfl⟩
  · cases hfresh
  · rw [List.concat_eq_append] at h hfresh ⊢
    obtain ⟨r', -, ht⟩ := h.split_last
    rw [LineState.afterAll_append, LineState.afterAll_cons, LineState.afterAll_nil,
      LineState.after_fresh_eq _ (ht.kind_ne hr)] at hfresh
    cases ht with
    | space => exact absurd rfl hr
    | lineBreak => cases hfresh
    | line _ _ _ hk => rw [Opening.endsLine_of_lineKind? hk] at hfresh; cases hfresh
    | @block g m y c _ hg hm ho hy =>
      obtain ⟨d, hd, rfl⟩ := exists_block_of_opening? ho
      refine ⟨d, hd, textOf us ++ (g ++ (m ++ y)), ?_⟩
      simp [Token.text]

theorem Takes.exists_lineBreak (h : st.Takes depth s t r) (hk : t.kind = .lineBreak) :
    ∃ (g : Text) (b : LineBreak), Gap g ∧ t.text = g ++ b.text := by
  cases h with
  | space => cases hk
  | lineBreak hg => exact ⟨_, _, hg, rfl⟩
  | @line _ _ _ _ o _ _ _ _ hk' =>
    obtain rfl := hk
    cases o <;> cases hk'
  | block => cases hk

/-- A line break where a line begins makes a blank line, with the blank space before it. -/
theorem Takes.belowBlankLine (hst : st.MarksInLine) (h : st.Takes depth s t r) (hr : r ≠ [])
    (hk : t.kind = .lineBreak) {x : Text} (hx : Text.LineStart x (t.text ++ r)) :
    Text.BelowBlankLine (x ++ t.text) r := by
  obtain ⟨g, b, hg, htext⟩ := h.exists_lineBreak hk
  refine ⟨(h.lineStart_iff hst hr x).2 (by rw [hk]; rfl), x, t.text, rfl, ?_, hx, fun c hc => ?_⟩
  · rw [htext]
    simp [b.text_ne]
  · rw [htext] at hc
    rcases List.mem_append.1 hc with hc | hc
    · exact hg.isBlank hc
    · exact isBlank_of_isBreakChar (LineBreak.isBreakChar_of_mem_text hc)

/-- The token that a blank line ends with is a line break. -/
theorem Takes.kind_of_belowBlankLine (hst : st.MarksInLine) (h : st.Takes depth s t r)
    (hr : r ≠ []) {x : Text} (hbelow : Text.BelowBlankLine (x ++ t.text) r) :
    t.kind = .lineBreak := by
  have hends := (h.lineStart_iff hst hr x).1 hbelow.1
  cases h with
  | space | block => cases hends
  | lineBreak => rfl
  | @line g m y r o kind hg hm ho hk hd hy =>
    cases Text.cutLine_eq_iff.1 hy with
    | last => exact absurd rfl hr
    | @broken w _ b hw hb =>
      have hmarker := hst.unbroken_marker ho
      obtain ⟨c, u, rfl, hc⟩ := hm
      have hu := (Text.unbroken_cons.1 hmarker).2.append hw
      refine absurd ?_ (Text.not_belowBlankLine_of_solid hc hu (x ++ g) r (b := b))
      simpa [Token.text] using hbelow

/-- No construct stands on a line that is blank, since it would end with a closing delimiter. -/
theorem Reads.fresh_of_belowBlankLine (hst : st.MarksInLine)
    (hclosing : ∀ d ∈ st.block, BeginsSolid d.closing) (h : st.Reads 0 s us r)
    (ht : st.Takes depth r t r') (hk : t.kind = .lineBreak)
    (hbelow : Text.BelowBlankLine (textOf us ++ t.text) r') :
    (LineState.afterAll {} us).fresh = true := by
  by_contra hfresh
  obtain ⟨d, hd, x, hx⟩ := h.exists_closing ht.ne_nil (by simpa using hfresh)
  obtain ⟨c, u, hdc, hc⟩ := hclosing d hd
  obtain ⟨g, b, hg, htext⟩ := ht.exists_lineBreak hk
  have hclose := hst.closing d hd
  rw [hdc] at hx hclose
  have hu := (Text.unbroken_cons.1 hclose).2.append hg.unbroken
  refine Text.not_belowBlankLine_of_solid hc hu x r' (b := b) ?_
  rw [hx, htext] at hbelow
  simpa using hbelow

/-- Behind tokens with more text behind them the line before is blank exactly when a blank line
precedes by the state of the line. -/
theorem Reads.afterBlank_iff (hst : st.MarksInLine)
    (hclosing : ∀ d ∈ st.block, BeginsSolid d.closing) (h : st.Reads 0 s us r) (hr : r ≠ []) :
    (LineState.afterAll {} us).afterBlank = true ↔ Text.BelowBlankLine (textOf us) r := by
  rcases List.eq_nil_or_concat us with rfl | ⟨us, t, rfl⟩
  · refine iff_of_false Bool.false_ne_true ?_
    rintro ⟨-, x', l, hx, hne, -⟩
    exact hne (List.append_eq_nil_iff.1 hx.symm).2
  rw [List.concat_eq_append] at h ⊢
  obtain ⟨r', hus, ht⟩ := h.split_last
  rw [LineState.afterAll_append, LineState.afterAll_cons, LineState.afterAll_nil,
    LineState.after_afterBlank_iff (ht.kind_ne hr) (LineState.fresh_of_afterBlank us (by simp)),
    textOf_append, textOf_cons, textOf_nil, List.append_nil]
  constructor
  · rintro ⟨hk, hfresh⟩
    have hstart := (hus.fresh_iff hst ht.ne_nil).1 hfresh
    rw [ht.eq_append] at hstart
    exact ht.belowBlankLine hst hr hk hstart
  · intro hbelow
    have hk := ht.kind_of_belowBlankLine hst hr hbelow
    exact ⟨hk, hus.fresh_of_belowBlankLine hst hclosing ht hk hbelow⟩

/-- No line begins before blank space that ends a part of the tokens, within a line. -/
theorem Reads.not_lineStart_of_gap (hst : st.MarksInLine)
    (hclosing : ∀ d ∈ st.block, BeginsSolid d.closing) (h : st.Reads 0 s us r) (hr : r ≠ [])
    {x g : Text} (hx : textOf us = x ++ g) (hg : Gap g) (hne : g ≠ []) :
    ¬ Text.LineStart x (g ++ r) := by
  intro hstart
  cases hfresh : (LineState.afterAll {} us).fresh with
  | true =>
    have hend := (h.fresh_iff hst hr).1 hfresh
    rw [hx] at hend
    exact Text.not_lineStart_of_unbroken hg.unbroken hne x r hend
  | false =>
    obtain ⟨d, hd, y, hy⟩ := h.exists_closing hr hfresh
    obtain ⟨c, u, hdc, hc⟩ := hclosing d hd
    have hnot : c ∉ g := fun hmem => by
      rw [hg.isBlank hmem] at hc
      cases hc
    rcases List.append_eq_append_iff.1 (hx.symm.trans hy) with ⟨p, -, rfl⟩ | ⟨p, rfl, hp⟩
    · exact hnot (List.mem_append_right p (hdc ▸ List.mem_cons_self))
    · by_cases hnil : p = []
      · rw [hnil, List.nil_append] at hp
        exact hnot (hp ▸ hdc ▸ List.mem_cons_self)
      · have hpart : Text.Unbroken p := fun e he =>
          hst.closing d hd e (hp ▸ List.mem_append_left g he)
        exact Text.not_lineStart_of_unbroken hpart hnil y _ hstart

/-! ## The rule for blocks -/

/-- The token `t`, which is read behind the tokens `us`, covers an offset. -/
structure Covers (ts us : List Token) (t : Token) (n : Nat) : Prop where
  read : us ++ [t] <+: ts
  start_le : (textOf us).length ≤ n
  lt_stop : n < (textOf us ++ t.text).length

/-- A further block begins at an offset, by the documented rule: the offset lies within the header,
behind a blank line, outside regions and block comments that are open there, and a construct of the
run follows behind blank space within the line. -/
structure BlockBegins (st : Style) (s : Text) (n : Nat) : Prop where
  within : n < (st.header s).length
  belowBlank : Text.BelowBlankLine (s.take n) (s.drop n)
  noRegion : ∀ us t, Covers (st.run 0 s).tokens us t n → depthAfter 0 us = 0
  noBlock : ∀ us t, Covers (st.run 0 s).tokens us t n → t.kind = .block →
    n ≤ (textOf us ++ t.gap).length
  construct : ∃ us t g, us ++ [t] <+: (st.run 0 s).tokens ∧ t.kind.isBlank = false ∧ Gap g ∧
    s.take n ++ g = textOf us ++ t.gap

/-- An offset behind tokens is covered by the one that is read there. -/
theorem Covers.eq_of_read {us' : List Token} {u : Token} (h : Covers ts us' u (textOf us).length)
    (hread : us ++ [t] <+: ts) (ht : t.text ≠ []) : us' = us ∧ u = t := by
  obtain ⟨⟨vs', hvs'⟩, hle, hlt⟩ := h
  obtain ⟨vs, rfl⟩ := hread
  have hpos := List.length_pos_iff.2 ht
  rw [List.append_assoc, List.append_assoc] at hvs'
  rcases List.append_eq_append_iff.1 hvs' with ⟨p, rfl, hp⟩ | ⟨p, rfl, hp⟩
  · cases p with
    | nil => exact ⟨(List.append_nil us').symm, (List.cons.inj hp).1⟩
    | cons a p =>
      obtain ⟨rfl, -⟩ := List.cons.inj hp
      simp only [textOf_append, textOf_cons, List.length_append] at hlt
      omega
  · cases p with
    | nil => exact ⟨List.append_nil us, (List.cons.inj hp).1.symm⟩
    | cons a p =>
      obtain ⟨rfl, -⟩ := List.cons.inj hp
      simp only [textOf_append, textOf_cons, List.length_append] at hle
      omega

variable {n : Nat}

/-- The header tokens up to one of them are read before it and what follows. -/
theorem reads_before (h : st.headerTokens s = us ++ t :: vs) :
    ∃ r, s = textOf us ++ r ∧ r ≠ [] ∧ st.Reads 0 s us r ∧
      st.Reads (depthAfter 0 us) r (t :: vs) (st.below s) ∧ t.text ≠ [] := by
  have hread := st.reads_header s
  have htext := hread.text_ne (h ▸ List.mem_append_right us List.mem_cons_self)
  rw [h] at hread
  obtain ⟨r, hus, hvs⟩ := hread.split
  refine ⟨r, hus.eq_append, ?_, hus, hvs, htext⟩
  cases hvs with
  | step ht _ => exact ht.ne_nil

/-- Where a line begins before a construct, with nothing but blank space in between, the tokens
before the construct end. -/
theorem Reads.eq_of_lineStart (hst : st.MarksInLine)
    (hclosing : ∀ d ∈ st.block, BeginsSolid d.closing) (h : st.Reads 0 s us r) (hr : r ≠ [])
    {x y g g' : Text} (hs : x ++ y = s) (hstart : Text.LineStart x y) (hg : Gap g) (hg' : Gap g')
    (hplace : x ++ g = textOf us ++ g') : x = textOf us ∧ y = r := by
  have hread : x ++ y = textOf us ++ r := hs.trans h.eq_append
  rcases List.append_eq_append_iff.1 hplace with ⟨p, hp, rfl⟩ | ⟨p, rfl, rfl⟩
  · rw [hp, List.append_assoc] at hread
    obtain rfl := List.append_cancel_left hread
    by_cases hnil : p = []
    · subst hnil
      exact ⟨by rw [hp, List.append_nil], rfl⟩
    · have hpgap : Gap p := fun c hc => hg c (List.mem_append_left g' hc)
      exact absurd hstart (h.not_lineStart_of_gap hst hclosing hr hp hpgap hnil)
  · rw [List.append_assoc] at hread
    obtain rfl := List.append_cancel_left hread
    by_cases hnil : p = []
    · subst hnil
      exact ⟨List.append_nil _, rfl⟩
    · have hpgap : Gap p := fun c hc => hg' c (List.mem_append_left g hc)
      exact absurd hstart (Text.not_lineStart_of_unbroken hpgap.unbroken hnil _ y)

/-- The tokens of the run that begin within the header are those of the header. -/
theorem exists_headerTokens_eq (h : us ++ [t] <+: (st.run 0 s).tokens)
    (hlt : (textOf us).length < (st.header s).length) :
    ∃ vs, st.headerTokens s = us ++ t :: vs := by
  obtain ⟨rest, hrest⟩ := settled_prefix 0 (st.run 0 s).tokens
  obtain ⟨vs, hvs⟩ := h
  rw [← hrest, List.append_assoc] at hvs
  rcases List.append_eq_append_iff.1 hvs with ⟨p, hp, hrun⟩ | ⟨p, rfl, -⟩
  · cases p with
    | nil =>
      rw [List.append_nil] at hp
      rw [header, headerTokens, hp] at hlt
      exact absurd hlt (Nat.lt_irrefl _)
    | cons u p =>
      obtain ⟨rfl, -⟩ := List.cons.inj hrun
      exact ⟨p, hp⟩
  · rw [textOf_append, List.length_append, header, headerTokens] at hlt
    omega

/-- A block begins by the rule exactly where the state of the line says that a token opens one. -/
theorem blockBegins_iff (hst : st.MarksInLine) (hclosing : ∀ d ∈ st.block, BeginsSolid d.closing) :
    st.BlockBegins s n ↔ ∃ us t vs, st.headerTokens s = us ++ t :: vs ∧
      (LineState.afterAll {} us).opens t = true ∧ n = (textOf us).length := by
  constructor
  · rintro ⟨hwithin, hbelow, hregion, -, us, t, g, hrun, hk, hg, hplace⟩
    have hle : n ≤ s.length := by
      have := (st.header_prefix s).length_le
      omega
    have hread := st.reads_run 0 s
    obtain ⟨vs, hvs⟩ := hrun
    rw [← hvs, List.append_assoc] at hread
    have htext := hread.text_ne (List.mem_append_right us List.mem_cons_self)
    obtain ⟨r, hus, hrest⟩ := hread.split
    obtain ⟨hr, htgap⟩ : r ≠ [] ∧ Gap t.gap := by
      cases hrest with
      | step ht _ => exact ⟨ht.ne_nil, ht.gap⟩
    obtain ⟨htake, hdrop⟩ := hus.eq_of_lineStart hst hclosing hr (List.take_append_drop n s)
      hbelow.1 hg htgap hplace
    have hn : n = (textOf us).length := by rw [← htake, List.length_take, Nat.min_eq_left hle]
    have hdepth : depthAfter 0 us = 0 := by
      refine hregion us t ⟨⟨vs, hvs⟩, hn.ge, ?_⟩
      have := List.length_pos_iff.2 htext
      rw [List.length_append]
      omega
    rw [htake, hdrop] at hbelow
    have hafter := (hus.afterBlank_iff hst hclosing hr).2 hbelow
    have hfresh := LineState.fresh_of_afterBlank us (by simp) hafter
    obtain ⟨ws, hws⟩ := exists_headerTokens_eq ⟨vs, hvs⟩ (hn ▸ hwithin)
    refine ⟨us, t, ws, hws, LineState.opens_iff.2 ⟨hk, hfresh, hafter, ?_⟩, hn⟩
    rw [LineState.afterAll_depth, hdepth]
  · rintro ⟨us, t, vs, htok, ho, rfl⟩
    obtain ⟨r, hs, hr, hus, hvs, htext⟩ := reads_before htok
    obtain ⟨hk, -, hafter, hd⟩ := LineState.opens_iff.1 ho
    have htake : s.take (textOf us).length = textOf us := by rw [hs, List.take_left]
    have hdrop : s.drop (textOf us).length = r := by rw [hs, List.drop_left]
    have hprefix : st.headerTokens s <+: (st.run 0 s).tokens := settled_prefix 0 _
    have hread : us ++ [t] <+: (st.run 0 s).tokens := by
      refine List.IsPrefix.trans ?_ hprefix
      rw [htok]
      exact ⟨vs, by simp⟩
    refine ⟨?_, ?_, fun us' u hu => ?_, fun us' u hu _ => ?_, us, t, t.gap, hread, hk, ?_, ?_⟩
    · have := List.length_pos_iff.2 htext
      rw [header, htok, textOf_append, textOf_cons, List.length_append, List.length_append]
      omega
    · rw [htake, hdrop]
      exact (hus.afterBlank_iff hst hclosing hr).1 hafter
    · obtain ⟨rfl, rfl⟩ := hu.eq_of_read hread htext
      rwa [LineState.afterAll_depth] at hd
    · obtain ⟨rfl, rfl⟩ := hu.eq_of_read hread htext
      rw [List.length_append]
      exact Nat.le_add_right _ _
    · cases hvs with
      | step ht _ => exact ht.gap
    · rw [htake]

/-! ## The blocks of a text -/

theorem ne_nil_of_mem_blocksOf {b : List Token} (h : b ∈ blocksOf ts) : b ≠ [] := by
  cases ts with
  | nil => cases h
  | cons t ts =>
    rw [blocksOf_cons, List.mem_cons] at h
    rcases h with rfl | h
    · rw [cutBlocks_cons_of_not_opens (LineState.opens_start t)]
      exact List.cons_ne_nil _ _
    · obtain ⟨u, b', rfl, -⟩ := exists_construct_of_mem_cut h
      exact List.cons_ne_nil u b'

theorem blocks_ne_nil (st : Style) (s : Text) : ∀ x ∈ st.blocks s, x ≠ [] := by
  intro x h
  obtain ⟨b, hb, rfl⟩ := List.mem_map.1 h
  obtain ⟨t, b', rfl⟩ := List.exists_cons_of_ne_nil (ne_nil_of_mem_blocksOf hb)
  have ht : t ∈ st.headerTokens s := by
    rw [← blocksOf_flatten (st.headerTokens s)]
    exact List.mem_flatten_of_mem hb List.mem_cons_self
  rw [textOf_cons]
  simp [(st.reads_header s).text_ne ht]

/-- Where the state of the line says that a token opens a block, the texts before and behind have
the blocks that they have by themselves. -/
theorem blocks_split (h : st.headerTokens s = us ++ t :: vs)
    (ho : (LineState.afterAll {} us).opens t = true) {r : Text} (hs : s = textOf us ++ r) :
    st.blocks s = st.blocks (textOf us) ++ st.blocks r ∧ (st.blocks (textOf us)).flatten = textOf us ∧
      st.blocks (textOf us) ≠ [] ∧ st.blocks r ≠ [] := by
  obtain ⟨r', hs', -, hus, hvs, -⟩ := reads_before h
  obtain rfl : r' = r := List.append_cancel_left (hs'.symm.trans hs)
  have hd : depthAfter 0 us = 0 := by
    have := (LineState.opens_iff.1 ho).2.2.2
    rwa [LineState.afterAll_depth] at this
  have hall := st.depthAfter_headerTokens s
  rw [h, depthAfter_append, hd] at hall
  rw [hd] at hvs
  have hbefore : st.headerTokens (textOf us) = us := by
    have hown := hus.shorten List.nil_prefix
    rw [List.append_nil] at hown
    exact hown.headerTokens_of_all hd
  have hbehind : st.headerTokens r' = t :: vs := by
    rw [hvs.headerTokens hall, headerTokens_below, List.append_nil]
  obtain ⟨hblocks, hne⟩ := blocksOf_append_of_opens ho vs
  refine ⟨?_, ?_, ?_, ?_⟩
  · rw [blocks, blocks, blocks, h, hbefore, hbehind, hblocks, List.map_append]
  · rw [blocks_flatten, header, hbefore]
  · rw [blocks, hbefore]
    exact fun hnil => hne (List.map_eq_nil_iff.1 hnil)
  · rw [blocks, hbehind, blocksOf_cons]
    exact List.cons_ne_nil _ _

/-- The offsets of a text at which a block begins behind another one. -/
def boundaries (st : Style) (s : Text) : List Nat := (spans 0 (st.blocks s)).tail.map Prod.fst

theorem mem_boundaries_iff : n ∈ st.boundaries s ↔ ∃ first later,
    st.blocks s = first ++ later ∧ first ≠ [] ∧ later ≠ [] ∧ n = first.flatten.length := by
  unfold boundaries
  cases st.blocks s with
  | nil =>
    refine iff_of_false List.not_mem_nil ?_
    rintro ⟨first, later, h, hne, -⟩
    exact hne (List.append_eq_nil_iff.1 h.symm).1
  | cons x xs =>
    rw [spans, List.tail_cons, mem_starts_iff]
    constructor
    · rintro ⟨first, later, rfl, hne, rfl⟩
      exact ⟨x :: first, later, rfl, List.cons_ne_nil x first, hne, by simp⟩
    · rintro ⟨first, later, h, hfirst, hne, rfl⟩
      obtain ⟨y, first, rfl⟩ := List.exists_cons_of_ne_nil hfirst
      obtain ⟨rfl, rfl⟩ := List.cons.inj h
      exact ⟨first, later, rfl, hne, by simp⟩

theorem mem_boundaries_iff_opens : n ∈ st.boundaries s ↔ ∃ us t vs,
    st.headerTokens s = us ++ t :: vs ∧ (LineState.afterAll {} us).opens t = true ∧
      n = (textOf us).length := by
  rw [mem_boundaries_iff]
  constructor
  · rintro ⟨first, later, h, hfirst, hlater, rfl⟩
    rw [blocks, List.map_eq_append_iff] at h
    obtain ⟨first, later, hts, rfl, rfl⟩ := h
    obtain ⟨t, vs, htok, ho⟩ := exists_opens_of_cut hts
      (fun hnil => hfirst (List.map_eq_nil_iff.2 hnil))
      (fun hnil => hlater (List.map_eq_nil_iff.2 hnil))
    exact ⟨_, t, vs, htok, ho, by rw [textOf_flatten]⟩
  · rintro ⟨us, t, vs, htok, ho, rfl⟩
    obtain ⟨r, hs, -⟩ := reads_before htok
    obtain ⟨hblocks, hflat, hbefore, hbehind⟩ := blocks_split htok ho hs
    exact ⟨_, _, hblocks, hbefore, hbehind, by rw [hflat]⟩

/-- At a boundary the blocks of a text are those of the text before it and, shifted, those of the
text behind it. -/
theorem spans_split (hn : n ∈ st.boundaries s) :
    st.blocks s = st.blocks (s.take n) ++ st.blocks (s.drop n) ∧
      (spans 0 (st.blocks s)).filter (fun p => p.2 ≤ n) = spans 0 (st.blocks (s.take n)) ∧
      (spans 0 (st.blocks s)).filter (fun p => n ≤ p.1) =
        (spans 0 (st.blocks (s.drop n))).map fun p => (n + p.1, n + p.2) := by
  obtain ⟨us, t, vs, htok, ho, rfl⟩ := mem_boundaries_iff_opens.1 hn
  obtain ⟨r, hs, -⟩ := reads_before htok
  obtain ⟨hblocks, hflat, -, -⟩ := blocks_split htok ho hs
  have htake : s.take (textOf us).length = textOf us := by rw [hs, List.take_left]
  have hdrop : s.drop (textOf us).length = r := by rw [hs, List.drop_left]
  have hfilter := filter_spans (st.blocks_ne_nil (textOf us)) (st.blocks_ne_nil r)
  rw [hflat, ← hblocks] at hfilter
  rw [htake, hdrop, ← spans_shift, Nat.add_zero]
  exact ⟨hblocks, hfilter⟩

/-- The blocks of a text are non-empty, lie behind each other from its start to the end of its
header, and are the header when they are joined. A block begins behind another one exactly where
the rule says so, and the text before and the text behind such a place have the blocks that the
whole text has there. -/
theorem blocks_partition_header (hst : st.MarksInLine)
    (hclosing : ∀ d ∈ st.block, BeginsSolid d.closing) (s : Text) :
    Tiles 0 (spans 0 (st.blocks s)) (st.header s).length ∧
      (spans 0 (st.blocks s)).map (fun p => (s.take p.2).drop p.1) = st.blocks s ∧
      (st.blocks s).flatten = st.header s ∧
      (∀ n, n ∈ st.boundaries s ↔ st.BlockBegins s n) ∧
      ∀ n ∈ st.boundaries s,
        st.blocks s = st.blocks (s.take n) ++ st.blocks (s.drop n) ∧
        (spans 0 (st.blocks s)).filter (fun p => p.2 ≤ n) = spans 0 (st.blocks (s.take n)) ∧
        (spans 0 (st.blocks s)).filter (fun p => n ≤ p.1) =
          (spans 0 (st.blocks (s.drop n))).map fun p => (n + p.1, n + p.2) := by
  have hflat := st.blocks_flatten s
  have htiles := tiles_spans (st.blocks_ne_nil s) 0
  have htexts := map_spans [] (st.below s) (st.blocks s)
  rw [Nat.zero_add, hflat] at htiles
  rw [hflat, List.nil_append, header_append_below] at htexts
  refine ⟨htiles, htexts, hflat, fun n => ?_, fun n => spans_split⟩
  rw [mem_boundaries_iff_opens, blockBegins_iff hst hclosing]

/-- Blank lines within a block comment and within a region part nothing, and neither does the end of
a block comment in the middle of a line. -/
theorem blocks_partition_header_of_class :
    let style := Language.BuiltIn.csharp.style
    let s := ("// License: MIT\n \n/* a\n\n*/ // b\n\n" ++
      "  #region R\n\n// c\n#endregion\nclass A {}\n").toList
    style.MarksInLine ∧ (∀ d ∈ style.block, BeginsSolid d.closing) ∧
      style.boundaries s = [18, 33] ∧
      (∀ n, style.BlockBegins s n ↔ n = 18 ∨ n = 33) ∧
      style.blocks s = style.blocks (s.take 33) ++ style.blocks (s.drop 33) := by
  intro style s
  have hst : style.MarksInLine := by decide
  have hclosing : ∀ d ∈ style.block, BeginsSolid d.closing := by
    rintro d hd
    obtain rfl := Option.some.inj hd
    exact ⟨'*', ['/'], rfl, rfl⟩
  have hboundaries : style.boundaries s = [18, 33] := by decide +kernel
  obtain ⟨-, -, -, hrule, hsplit⟩ := blocks_partition_header hst hclosing s
  rw [hboundaries] at hrule hsplit
  refine ⟨hst, hclosing, hboundaries, fun n => ?_, (hsplit 33 (by simp)).1⟩
  rw [← hrule n]
  simp

end Style

end Letterhead.Comment

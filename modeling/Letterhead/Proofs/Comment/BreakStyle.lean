import Letterhead.Language.BuiltIn
import Letterhead.Proofs.Comment.Blocks
import Letterhead.Proofs.Comment.Seam
import Letterhead.Proofs.Text.SetBreaks

/-
  Comment runs and the way in which line breaks are written. When no marker holds a line break
  character, a step over a text with its line breaks written in one way takes what the step over
  the text itself takes, written in that way (`next_setLineBreaks`), and so does the run
  (`run_setLineBreaks`). The header and its blocks depend on the kinds of the tokens alone
  (`settled_map`, `blocksOf_map`), so recognition is blind to the line breaks
  (`recognition_setLineBreaks`).
-/

namespace Letterhead.Comment

/-! ## Kinds decide -/

section Kinds

variable {f : Token → Token} (hf : ∀ t, (f t).kind = t.kind)

include hf

theorem settled_map (depth : Nat) (ts : List Token) :
    settled depth (ts.map f) = (settled depth ts).map f := by
  induction ts generalizing depth with
  | nil => rfl
  | cons t ts ih =>
    rw [List.map_cons, settled, settled, hf, ih]
    split
    · rfl
    · cases settled (t.kind.depthAfter depth) ts <;> rfl

theorem depthAfter_map (depth : Nat) (ts : List Token) :
    depthAfter depth (ts.map f) = depthAfter depth ts := by
  induction ts generalizing depth with
  | nil => rfl
  | cons t ts ih => rw [List.map_cons, depthAfter_cons, depthAfter_cons, hf, ih]

theorem cutBlocks_map (l : LineState) (ts : List Token) :
    cutBlocks l (ts.map f) =
      ((cutBlocks l ts).1.map f, (cutBlocks l ts).2.map (List.map f)) := by
  induction ts generalizing l with
  | nil => rfl
  | cons t ts ih =>
    have hafter : l.after (f t) = l.after t := by simp only [LineState.after, hf]
    have hopens : l.opens (f t) = l.opens t := by simp only [LineState.opens, hf]
    rw [List.map_cons]
    cases ho : l.opens t with
    | true =>
      rw [cutBlocks_cons_of_opens ho, cutBlocks_cons_of_opens (hopens.trans ho), hafter, ih]
      rfl
    | false =>
      rw [cutBlocks_cons_of_not_opens ho, cutBlocks_cons_of_not_opens (hopens.trans ho), hafter,
        ih]
      rfl

theorem blocksOf_map (ts : List Token) :
    blocksOf (ts.map f) = (blocksOf ts).map (List.map f) := by
  cases ts with
  | nil => rfl
  | cons t ts =>
    have hcut := cutBlocks_map hf {} (t :: ts)
    rw [List.map_cons] at hcut ⊢
    rw [blocksOf_cons, blocksOf_cons, hcut]
    rfl

end Kinds

/-! ## Steps and runs -/

/-- A token with its line breaks written in one way. The blank space before it has none. -/
def Token.setLineBreaks (mark : Text) (t : Token) : Token :=
  { t with body := Text.setLineBreaks mark t.body }

theorem Token.kind_setLineBreaks (mark : Text) (t : Token) :
    (t.setLineBreaks mark).kind = t.kind := rfl

namespace Style

variable {st : Style} {depth : Nat} {s r : Text} {ts : List Token}

theorem opening?_setLineBreaks (hst : st.MarkersInLine) (lb : LineBreak) (s : Text) :
    st.opening? (Text.setLineBreaks lb.text s) = st.opening? s := by
  unfold opening?
  congr 1
  refine List.filter_congr fun o ho => ?_
  rw [Text.beginsWith, Text.beginsWith, Text.after?_setLineBreaks (hst o ho), Option.isSome_map]

/-- The token that a marker opens, over a text with its line breaks written in one way. -/
theorem construct_setLineBreaks {gap marker : Text} {o : Opening} (hm : Text.Unbroken marker)
    (ho : ∀ c, o = .block c → Text.Unbroken c ∧ c ≠ []) (lb : LineBreak) (r : Text) :
    construct gap depth marker o (Text.setLineBreaks lb.text r) =
      (construct gap depth marker o r).map fun p =>
        (p.1.setLineBreaks lb.text, Text.setLineBreaks lb.text p.2) := by
  have hline (kind : Kind) : (⟨gap, kind, marker ++ (Text.cutLine r).1⟩ : Token).setLineBreaks
      lb.text = ⟨gap, kind, marker ++ Text.setLineBreaks lb.text (Text.cutLine r).1⟩ := by
    rw [Token.setLineBreaks, Text.setLineBreaks_unbroken_append hm]
  cases o with
  | line | regionStart =>
    simp only [construct, Text.cutLine_setLineBreaks, Except.map, hline]
  | regionEnd =>
    simp only [construct, Text.cutLine_setLineBreaks]
    split
    · rfl
    · simp only [Except.map, hline]
  | block c =>
    obtain ⟨hc, hne⟩ := ho c rfl
    simp only [construct, Text.cutAt?_setLineBreaks hc hne]
    cases hr : Text.cutAt? c r with
    | none => rfl
    | some p =>
      have hapart : Text.Apart p.1 c := fun _ hhead => by
        have := hc '\n' (List.mem_of_mem_head? hhead)
        cases this
      simp only [Option.map_some, Except.map, Token.setLineBreaks, List.append_assoc]
      rw [Text.setLineBreaks_unbroken_append hm, Text.setLineBreaks_append hapart,
        Text.setLineBreaks_unbroken hc]

/-- A step over a text with its line breaks written in one way is the step over the text, written
in that way. -/
theorem next_setLineBreaks (hst : st.MarksInLine) (lb : LineBreak) (depth : Nat) (s : Text) :
    st.next depth (Text.setLineBreaks lb.text s) = (st.next depth s).map fun p =>
      (p.1.setLineBreaks lb.text, Text.setLineBreaks lb.text p.2) := by
  have hgap : ∀ c, isGap c = true → isBreakChar c = false := fun c hc => by
    simp only [isGap, Bool.and_eq_true, Bool.not_eq_true'] at hc
    exact hc.2
  have hunbroken : Text.Unbroken (s.takeWhile isGap) := fun c hc =>
    hgap c (List.mem_takeWhile_imp hc)
  unfold next
  rw [Text.takeWhile_setLineBreaks hgap, Text.dropWhile_setLineBreaks hgap]
  dsimp only
  generalize s.dropWhile isGap = s'
  generalize s.takeWhile isGap = g at hunbroken
  by_cases hs' : s' = []
  · subst hs'
    rw [if_pos rfl, if_pos (Text.setLineBreaks_nil lb)]
    split
    · rfl
    · simp only [Except.map, Token.setLineBreaks, Text.setLineBreaks_unbroken hunbroken,
        Text.setLineBreaks_nil]
  rw [if_neg hs', if_neg (fun h => hs' (Text.setLineBreaks_eq_nil_iff.1 h)),
    Text.take?_setLineBreaks, opening?_setLineBreaks hst.openings]
  cases LineBreak.take? s' with
  | some p =>
    simp only [Option.map_some, Except.map, Token.setLineBreaks, Text.setLineBreaks_text]
  | none =>
    cases ho : st.opening? s' with
    | none => rfl
    | some p =>
      obtain ⟨marker, o⟩ := p
      have hm := hst.unbroken_marker ho
      have hd := (opening?_spec ho).2
      have hrest : (Text.setLineBreaks lb.text s').drop marker.length =
          Text.setLineBreaks lb.text (s'.drop marker.length) := by
        conv => lhs; rw [hd, Text.setLineBreaks_unbroken_append hm, List.drop_left]
      simp only [Option.map_none]
      rw [hrest, construct_setLineBreaks hm fun c hc => ?_]
      obtain ⟨d, hd, rfl⟩ := exists_block_of_opening? (hc ▸ ho)
      exact ⟨hst.closing d hd, d.closing_ne⟩

theorem run_setLineBreaks (hst : st.MarksInLine) (lb : LineBreak) (depth : Nat) (s : Text) :
    st.run depth (Text.setLineBreaks lb.text s) =
      ⟨(st.run depth s).tokens.map (Token.setLineBreaks lb.text), (st.run depth s).stop,
        Text.setLineBreaks lb.text (st.run depth s).rest⟩ := by
  induction hn : s.length using Nat.strongRecOn generalizing s depth with
  | _ n ih =>
    subst hn
    have hnext := next_setLineBreaks hst lb depth s
    cases h : st.next depth s with
    | error why =>
      rw [h, Except.map] at hnext
      rw [run_of_error hnext, run_of_error h]
      rfl
    | ok p =>
      obtain ⟨t, r⟩ := p
      rw [h, Except.map] at hnext
      rw [run_of_ok hnext, run_of_ok h, Token.kind_setLineBreaks,
        ih r.length (length_lt_of_next h) _ r rfl]
      rfl

/-- What is read of a text is what is read of it with its line breaks written in one way. -/
theorem Reads.setLineBreaks_eq (hst : st.MarksInLine) (h : st.Reads depth s ts r)
    (lb : LineBreak) : Text.setLineBreaks lb.text s =
      textOf (ts.map (Token.setLineBreaks lb.text)) ++ Text.setLineBreaks lb.text r := by
  induction h with
  | done => rfl
  | @step depth s r rest t ts ht _ ih =>
    have hnext := next_setLineBreaks hst lb depth s
    rw [ht.next, Except.map] at hnext
    rw [(next_spec hnext).1, ih, List.map_cons, textOf_cons, List.append_assoc]

/-- The text of tokens that are read one after the other, with its line breaks written in one
way. -/
theorem Reads.textOf_map (hst : st.MarksInLine) (h : st.Reads depth s ts r) (lb : LineBreak) :
    textOf (ts.map (Token.setLineBreaks lb.text)) = Text.setLineBreaks lb.text (textOf ts) := by
  have hown := (h.shorten List.nil_prefix).setLineBreaks_eq hst lb
  rw [List.append_nil, Text.setLineBreaks_nil, List.append_nil] at hown
  exact hown.symm

/-! ## Headers -/

theorem headerTokens_setLineBreaks (hst : st.MarksInLine) (lb : LineBreak) (s : Text) :
    st.headerTokens (Text.setLineBreaks lb.text s) =
      (st.headerTokens s).map (Token.setLineBreaks lb.text) := by
  rw [headerTokens, run_setLineBreaks hst, settled_map (Token.kind_setLineBreaks lb.text)]
  rfl

theorem header_setLineBreaks (hst : st.MarksInLine) (lb : LineBreak) (s : Text) :
    st.header (Text.setLineBreaks lb.text s) = Text.setLineBreaks lb.text (st.header s) := by
  rw [header, headerTokens_setLineBreaks hst, (st.reads_header s).textOf_map hst]
  rfl

theorem blocks_setLineBreaks (hst : st.MarksInLine) (lb : LineBreak) (s : Text) :
    st.blocks (Text.setLineBreaks lb.text s) =
      (st.blocks s).map (Text.setLineBreaks lb.text) := by
  rw [blocks, blocks, headerTokens_setLineBreaks hst,
    blocksOf_map (Token.kind_setLineBreaks lb.text), List.map_map, List.map_map]
  refine List.map_congr_left fun b hb => ?_
  -- Each block is read by itself, behind the blocks before it.
  obtain ⟨before, behind, hblocks⟩ := List.append_of_mem hb
  have hread := st.reads_header s
  rw [← blocksOf_flatten (st.headerTokens s), hblocks, List.flatten_append,
    List.flatten_cons] at hread
  obtain ⟨r, -, hr⟩ := hread.split
  obtain ⟨r', hblock, -⟩ := hr.split
  exact hblock.textOf_map hst lb

theorem hasUnclosedBlock_setLineBreaks (hst : st.MarksInLine) (lb : LineBreak) (s : Text) :
    st.hasUnclosedBlock (Text.setLineBreaks lb.text s) = st.hasUnclosedBlock s := by
  rw [hasUnclosedBlock, run_setLineBreaks hst]
  rfl

theorem isBalanced_setLineBreaks (hst : st.MarksInLine) (lb : LineBreak) (s : Text) :
    st.isBalanced (Text.setLineBreaks lb.text s) = st.isBalanced s := by
  rw [isBalanced, hasUnclosedBlock_setLineBreaks hst, run_setLineBreaks hst,
    depthAfter_map (Token.kind_setLineBreaks lb.text)]
  rfl

/-- A text is all header when it is so with its line breaks written in one way. -/
theorem header_setLineBreaks_eq_iff (hst : st.MarksInLine) (lb : LineBreak) (s : Text) :
    st.header (Text.setLineBreaks lb.text s) = Text.setLineBreaks lb.text s ↔
      st.header s = s := by
  have hs := (st.reads_header s).setLineBreaks_eq hst lb
  rw [(st.reads_header s).textOf_map hst lb] at hs
  rw [header_setLineBreaks hst]
  refine ⟨fun h => ?_, fun h => by rw [h]⟩
  have hbelow : st.below s = [] :=
    Text.setLineBreaks_eq_nil_iff.1 (List.append_right_eq_self.1 (hs.symm.trans h.symm))
  have hwhole := st.header_append_below s
  rwa [hbelow, List.append_nil] at hwhole

theorem isHeader_setLineBreaks (hst : st.MarksInLine) (lb : LineBreak) (s : Text) :
    st.isHeader (Text.setLineBreaks lb.text s) = st.isHeader s := by
  rw [Bool.eq_iff_iff, isHeader_eq_true_iff, isHeader_eq_true_iff, isBalanced_setLineBreaks hst,
    header_setLineBreaks_eq_iff hst]

theorem startsWithComment_setLineBreaks (hst : st.MarkersInLine) (lb : LineBreak) (s : Text) :
    st.startsWithComment (Text.setLineBreaks lb.text s) = st.startsWithComment s := by
  have hspace : ∀ c : Char, (c == ' ' || c == '\t') = true → isBreakChar c = false := fun c hc => by
    simp only [Bool.or_eq_true, beq_iff_eq] at hc
    rcases hc with rfl | rfl <;> rfl
  rw [startsWithComment, Text.dropWhile_setLineBreaks hspace, opening?_setLineBreaks hst]
  rfl

/-- Recognition is blind to the way in which line breaks are written. -/
theorem recognition_setLineBreaks (hst : st.MarksInLine) (lb : LineBreak) (s : Text) :
    st.header (Text.setLineBreaks lb.text s) = Text.setLineBreaks lb.text (st.header s) ∧
      st.blocks (Text.setLineBreaks lb.text s) =
        (st.blocks s).map (Text.setLineBreaks lb.text) ∧
      st.isBalanced (Text.setLineBreaks lb.text s) = st.isBalanced s ∧
      st.hasUnclosedBlock (Text.setLineBreaks lb.text s) = st.hasUnclosedBlock s ∧
      st.isHeader (Text.setLineBreaks lb.text s) = st.isHeader s ∧
      st.startsWithComment (Text.setLineBreaks lb.text s) = st.startsWithComment s :=
  ⟨header_setLineBreaks hst lb s, blocks_setLineBreaks hst lb s, isBalanced_setLineBreaks hst lb s,
    hasUnclosedBlock_setLineBreaks hst lb s, isHeader_setLineBreaks hst lb s,
    startsWithComment_setLineBreaks hst.openings lb s⟩

/-- A document with all three kinds of line breaks, one behind the other. -/
theorem recognition_setLineBreaks_mixed :
    let style := Language.BuiltIn.csharp.style
    let s := "// License: MIT\r\r\n/* a\n */ \n\rclass A {}\r\n".toList
    let t := "// License: MIT\r\n\r\n/* a\r\n */ \r\n\r\nclass A {}\r\n".toList
    style.MarksInLine ∧ Text.setLineBreaks LineBreak.crlf.text s = t ∧
      style.header t = Text.setLineBreaks LineBreak.crlf.text (style.header s) ∧
      style.blocks t =
        ["// License: MIT\r\n\r\n".toList, "/* a\r\n */ \r\n\r\n".toList] ∧
      style.isHeader t = false ∧ style.startsWithComment t = true := by
  intro style s t
  have hst : style.MarksInLine := by decide
  have ht : Text.setLineBreaks LineBreak.crlf.text s = t := by decide +kernel
  obtain ⟨hheader, hblocks, -, -, hall, hstarts⟩ := recognition_setLineBreaks hst .crlf s
  rw [ht] at hheader hblocks hall hstarts
  have hs : style.blocks s = ["// License: MIT\r\r\n".toList, "/* a\n */ \n\r".toList] := by
    decide +kernel
  rw [hs] at hblocks
  refine ⟨hst, ht, hheader, hblocks.trans (by decide +kernel), hall.trans ?_, hstarts.trans ?_⟩
  · decide +kernel
  · decide +kernel

end Style
end Letterhead.Comment

import Letterhead.Language.BuiltIn
import Letterhead.Proofs.Comment.Seam

/-
  Texts and headers that are joined or split. When no marker holds a line break character, reading
  distributes over a header with a line break behind it: the rest has the header and the faults
  that it has by itself (`header_distributes`). The other way round, the split of any text into its
  header and what is below is one into a header by itself and a text that begins with none, which
  has all the faults of the whole (`split_canonical`); this holds of every marker.
-/

namespace Letterhead.Comment.Style

variable {st : Style} {s : Text}

/-! ## Above a text -/

section Above

variable (hst : st.MarkersInLine) (hs : st.isHeader s = true) (b : LineBreak)

include hst hs

theorem header_append_line (r : Text) :
    st.header (s ++ (b.text ++ r)) = s ++ (b.text ++ st.header r) := by
  have hwhole := st.header_append_below (s ++ (b.text ++ r))
  rw [below_append_line hst hs b r] at hwhole
  refine (List.append_left_inj (st.below r)).1 (hwhole.trans ?_)
  rw [List.append_assoc, List.append_assoc, header_append_below]

theorem isBalanced_append_line (r : Text) :
    st.isBalanced (s ++ (b.text ++ r)) = st.isBalanced r := by
  obtain ⟨us, r', hus, hd, -, rfl | ⟨-, rfl⟩⟩ := exists_reads_line hst hs b r
  · exact hus.isBalanced hd
  · rw [hus.isBalanced hd, (st.reads_lf r').isBalanced rfl]

/-- Two headers with a line break between them are one. -/
theorem isHeader_append_header {r : Text} (hr : st.isHeader r = true) :
    st.isHeader (s ++ (b.text ++ r)) = true := by
  rw [isHeader_eq_true_iff] at hr ⊢
  rw [isBalanced_append_line hst hs, header_append_line hst hs, hr.2]
  exact ⟨hr.1, rfl⟩

end Above

/-- Headers with a line break before each but the first are one. -/
theorem isHeader_joined (hst : st.MarkersInLine) (hs : st.isHeader s = true)
    {more : List (LineBreak × Text)} (hmore : ∀ p ∈ more, st.isHeader p.2 = true) :
    st.isHeader (s ++ more.flatMap fun p => p.1.text ++ p.2) = true := by
  induction more generalizing s with
  | nil => rwa [List.flatMap_nil, List.append_nil]
  | cons p more ih =>
    rw [List.forall_mem_cons] at hmore
    rw [List.flatMap_cons, List.append_assoc]
    exact isHeader_append_header hst hs p.1 (ih hmore.1 hmore.2)

/-- Above any text, a header and a line break behind it are part of the header, and the faults are
those of that text. So headers that are joined by line breaks, of one kind or of several, are a
header again. -/
theorem header_distributes (hst : st.MarkersInLine) (hs : st.isHeader s = true) :
    (∀ (b : LineBreak) (r : Text),
      st.header (s ++ b.text ++ r) = s ++ b.text ++ st.header r ∧
      st.isBalanced (s ++ b.text ++ r) = st.isBalanced r ∧
      st.hasUnclosedBlock (s ++ b.text ++ r) = st.hasUnclosedBlock r) ∧
    ∀ more : List (LineBreak × Text), (∀ p ∈ more, st.isHeader p.2 = true) →
      st.isHeader (s ++ more.flatMap fun p => p.1.text ++ p.2) = true := by
  refine ⟨fun b r => ?_, fun more => isHeader_joined hst hs⟩
  rw [List.append_assoc, List.append_assoc]
  exact ⟨header_append_line hst hs b r, isBalanced_append_line hst hs b r,
    hasUnclosedBlock_append_line hst hs b r⟩

/-- A line comment that ends with CR goes on over LF, and a region below it is left open. -/
theorem header_distributes_over_license :
    let style := Language.BuiltIn.csharp.style
    let h := "// License: MIT \r".toList
    style.MarkersInLine ∧ style.isHeader h = true ∧
      (style.isHeader "/* a */".toList = true ∧
        style.isHeader (h ++ ("\n".toList ++ "/* a */".toList)) = true) ∧
      style.header (h ++ "\n".toList ++ "#region a\n".toList) = h ++ "\n".toList ∧
      style.isBalanced (h ++ "\n".toList ++ "#region a\n".toList) = false := by
  intro style h
  have hst : style.MarkersInLine := by decide
  have hs : style.isHeader h = true := by decide +kernel
  have hr : style.isHeader "/* a */".toList = true := by decide +kernel
  obtain ⟨hover, hjoined⟩ := header_distributes hst hs
  obtain ⟨hheader, hbalanced, -⟩ := hover .lf "#region a\n".toList
  have hnone : style.header "#region a\n".toList = [] := by decide +kernel
  have hopen : style.isBalanced "#region a\n".toList = false := by decide +kernel
  rw [hnone, List.append_nil] at hheader
  have hmore := hjoined [(.lf, "/* a */".toList)] (by simpa using hr)
  exact ⟨hst, hs, ⟨hr, by simpa [LineBreak.text] using hmore⟩, hheader, hbalanced.trans hopen⟩

/-! ## The text by itself -/

/-- The split of a text into its header and the text below: the header is one by itself, with
nothing left over, the text below begins with none, and the faults of the text are those of the
text below. -/
theorem split_canonical (st : Style) (s : Text) :
    s = st.header s ++ st.below s ∧
      (st.isHeader (st.header s) = true ∧ st.header (st.header s) = st.header s) ∧
      st.header (st.below s) = [] ∧
      st.isBalanced s = st.isBalanced (st.below s) ∧
      st.hasUnclosedBlock s = st.hasUnclosedBlock (st.below s) := by
  have hread := st.reads_header s
  have hd := st.depthAfter_headerTokens s
  have hheader : st.isHeader (st.header s) = true := hread.isHeader_textOf hd
  have hagain := (isHeader_eq_true_iff.1 hheader).2
  exact ⟨(st.header_append_below s).symm, ⟨hheader, hagain⟩, st.header_below s,
    hread.isBalanced hd, hread.hasUnclosedBlock hd⟩

end Letterhead.Comment.Style

import Letterhead.Header.Plan
import Letterhead.Proofs.Comment.Blocks
import Letterhead.Proofs.Pattern.Conservation

/-
  The parts of a document that a header rule tells apart: the text above the header, the header
  that is there, and the rest. The header that is there is always a reading of whole tokens that
  leaves no region open (`reads_existing`). With keywords it is a number of leading blocks, and the
  rest has the others (`blocks_rest`).
-/

namespace Letterhead.HeaderRule

open Letterhead.Comment

variable (r : HeaderRule) (s : Text)

/-- What stays above the header is nothing, or ends its line, or is followed by text that begins
with no line break. -/
theorem exists_above_append : ∃ g, r.above s ++ g = s ∧
    (r.above s = [] ∨ Text.endsLine (r.above s) = true ∨ LineBreak.take? g = none) := by
  unfold above
  split
  next => exact ⟨s, rfl, Or.inl rfl⟩
  next => exact ⟨s, rfl, Or.inl rfl⟩
  next covered g hcovered hskip =>
    obtain ⟨k, -, hcut⟩ := Option.bind_eq_some_iff.1 hskip
    rw [Pattern.eq_append_of_cutStart? hcut]
    split
    next b g' hb =>
      refine ⟨g', by rw [LineBreak.eq_of_take? hb, List.append_assoc], Or.inr (Or.inl ?_)⟩
      rw [Text.endsLine, List.getLast?_append]
      cases b <;> rfl
    next hb => exact ⟨g, rfl, Or.inr (Or.inr hb)⟩

theorem above_prefix : r.above s <+: s :=
  let ⟨g, hg, _⟩ := r.exists_above_append s
  ⟨g, hg⟩

/-- A document without the text that stays above the header. -/
def body (s : Text) : Text := s.drop (r.above s).length

theorem above_append_body : r.above s ++ r.body s = s :=
  List.prefix_iff_eq_append.1 (r.above_prefix s)

theorem take?_body (hne : r.above s ≠ []) (hends : Text.endsLine (r.above s) ≠ true) :
    LineBreak.take? (r.body s) = none := by
  obtain ⟨g, hg, hcases⟩ := r.exists_above_append s
  have hbody : r.body s = g := List.append_cancel_left ((r.above_append_body s).trans hg.symm)
  rw [hbody]
  exact (hcases.resolve_left hne).resolve_left hends

/-- What is left of a text without the header that is there. -/
def rest (s : Text) : Text := s.drop (r.existing s).length

theorem existing_of_no_keywords (hk : r.keywords = []) : r.existing s = r.style.header s := by
  rw [existing, if_pos hk]

theorem rest_of_no_keywords (hk : r.keywords = []) : r.rest s = r.style.below s := by
  rw [rest, r.existing_of_no_keywords s hk, Style.below]

/-- With keywords the header that is there is a number of leading blocks. -/
theorem existing_of_keywords (hk : r.keywords ≠ []) : r.existing s =
    textOf ((blocksOf (r.style.headerTokens s)).take
      (r.ownBlocks s (r.style.blocks s))).flatten := by
  rw [existing, if_neg hk, ← textOf_flatten, List.map_take]
  rfl

/-- The header that is there is at most all of the leading comments. -/
theorem existing_prefix : r.existing s <+: r.style.header s := by
  by_cases hk : r.keywords = []
  · exact (r.existing_of_no_keywords s hk).symm ▸ List.prefix_rfl
  · rw [existing, if_neg hk, ← Style.blocks_flatten]
    dsimp only
    generalize r.ownBlocks s (r.style.blocks s) = n
    generalize r.style.blocks s = bs
    refine ⟨(bs.drop n).flatten, ?_⟩
    rw [← List.flatten_append, List.take_append_drop]

theorem existing_eq_nil (hs : r.style.header s = []) : r.existing s = [] :=
  List.prefix_nil.1 (hs ▸ r.existing_prefix s)

/-- The leading blocks that are the header are read from the text. -/
theorem reads_existing_of_keywords (hk : r.keywords ≠ []) :
    r.style.Reads 0 s ((blocksOf (r.style.headerTokens s)).take
      (r.ownBlocks s (r.style.blocks s))).flatten (r.rest s) := by
  have htok := blocksOf_flatten (r.style.headerTokens s)
  rw [← List.take_append_drop (r.ownBlocks s (r.style.blocks s)) (blocksOf _),
    List.flatten_append] at htok
  have h := r.style.reads_header s
  rw [← htok] at h
  obtain ⟨z, hz, -⟩ := h.split
  have hs := hz.eq_append
  rw [← r.existing_of_keywords s hk] at hs
  have hrest : r.rest s = z := by
    have hdrop := congrArg (List.drop (r.existing s).length) hs
    rwa [List.drop_left] at hdrop
  rw [hrest]
  exact hz

/-- The header that is there is read from the text, and no region is open behind it. -/
theorem reads_existing :
    ∃ ts, r.style.Reads 0 s ts (r.rest s) ∧ depthAfter 0 ts = 0 ∧ textOf ts = r.existing s := by
  by_cases hk : r.keywords = []
  · refine ⟨r.style.headerTokens s, ?_, r.style.depthAfter_headerTokens s, ?_⟩
    · rw [r.rest_of_no_keywords s hk]
      exact r.style.reads_header s
    · rw [r.existing_of_no_keywords s hk, Style.header]
  · exact ⟨_, r.reads_existing_of_keywords s hk,
      depthAfter_take_blocks _ (r.style.depthAfter_headerTokens s),
      (r.existing_of_keywords s hk).symm⟩

/-- The rest has the blocks that are not part of the header. -/
theorem blocks_rest (hk : r.keywords ≠ []) : r.style.blocks (r.rest s) =
    (r.style.blocks s).drop (r.ownBlocks s (r.style.blocks s)) := by
  have hread := r.reads_existing_of_keywords s hk
  have hd := depthAfter_take_blocks (r.ownBlocks s (r.style.blocks s))
    (r.style.depthAfter_headerTokens s)
  have htok := hread.headerTokens hd
  have hall := blocksOf_flatten (r.style.headerTokens s)
  rw [← List.take_append_drop (r.ownBlocks s (r.style.blocks s)) (blocksOf _),
    List.flatten_append] at hall
  have hrest := List.append_cancel_left (htok.symm.trans hall.symm)
  unfold Style.blocks
  rw [hrest, blocksOf_drop, List.map_drop]
  rfl

theorem existing_append_rest : r.existing s ++ r.rest s = s := by
  obtain ⟨ts, h, -, hts⟩ := r.reads_existing s
  rw [← hts]
  exact h.eq_append.symm

theorem isHeader_existing : r.style.isHeader (r.existing s) = true := by
  obtain ⟨ts, h, hd, hts⟩ := r.reads_existing s
  rw [← hts]
  exact h.isHeader_textOf hd

/-- The tokens of the header that is there are the first tokens of the text. -/
theorem tokens_existing_prefix :
    (r.style.run 0 (r.existing s)).tokens <+: (r.style.run 0 s).tokens := by
  obtain ⟨ts, h, hd, hts⟩ := r.reads_existing s
  have hown := h.shorten List.nil_prefix
  rw [List.append_nil, hts] at hown
  rw [hown.run_eq, h.run_eq, Style.run_nil, List.append_nil]
  exact List.prefix_append _ _

theorem below_rest : r.style.below (r.rest s) = r.style.below s := by
  obtain ⟨ts, h, hd, -⟩ := r.reads_existing s
  exact (h.below_eq hd).symm

theorem hasUnclosedBlock_rest : r.style.hasUnclosedBlock (r.rest s) = r.style.hasUnclosedBlock s := by
  obtain ⟨ts, h, hd, -⟩ := r.reads_existing s
  exact (h.hasUnclosedBlock hd).symm

end Letterhead.HeaderRule

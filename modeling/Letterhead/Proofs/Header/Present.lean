import Letterhead.Proofs.Header.Repetition

/-
  Documents that begin with the header to write already, as whole lines: it ends the document, or a
  line break of any kind follows. The header that is found reaches through it, with keywords and
  without (`prefix_existing`), so it is left or replaced, and a second one is never written above it
  (`present_header_not_inserted`).
-/

namespace Letterhead

open Letterhead.Comment

/-- A text is empty or begins with a line break. -/
inductive Text.BeginsLine : Text → Prop
  | nil : BeginsLine []
  | lineBreak (b : LineBreak) (g : Text) : BeginsLine (b.text ++ g)

/-- A header is read whole, with line breaks behind it at most, where nothing stands behind it in
its last line. -/
theorem Comment.Style.exists_reads_present {style : Style} (hst : style.MarkersInLine) {h g : Text}
    (hvalid : style.isHeader h = true) (hg : g.BeginsLine) :
    ∃ ts g' y, style.Reads 0 (h ++ g) ts g' ∧ depthAfter 0 ts = 0 ∧ textOf ts = h ++ y ∧
      ∀ c ∈ y, isBreakChar c = true := by
  cases hg with
  | nil =>
    obtain ⟨ts, hread, hd⟩ := Style.isHeader_iff.1 hvalid
    refine ⟨ts, [], [], by rwa [List.append_nil], hd, ?_, fun c hc => by cases hc⟩
    rw [List.append_nil, hread.eq_append, List.append_nil]
  | lineBreak b r =>
    have hvalid' : style.isHeader (h ++ []) = true := by rwa [List.append_nil]
    obtain ⟨ts, g', y, hread, hd, -, -, hts, hy⟩ :=
      HeaderRule.exists_reads_joined hst (fun c hc => by cases hc) hvalid' b r
    rw [List.append_nil] at hread
    exact ⟨ts, g', y, hread, hd, hts, hy⟩

namespace HeaderRule

variable {r : HeaderRule} {h g : Text}

theorem beginsWithHeader_of_beginsLine (hh : r.header = some h) (hne : h ≠ [])
    (hg : g.BeginsLine) : r.beginsWithHeader (h ++ g) = true := by
  rw [beginsWithHeader_append hh hne]
  cases hg with
  | nil => rfl
  | lineBreak b g => cases b <;> rfl

/-- The header that is found reaches through the header to write where the text begins with it. -/
theorem prefix_existing (hst : r.style.MarkersInLine) (hh : r.header = some h) (hne : h ≠ [])
    (hvalid : r.style.isHeader h = true) (hg : g.BeginsLine) : h <+: r.existing (h ++ g) := by
  obtain ⟨ts, g', y, hread, hd, hts, hy⟩ := Style.exists_reads_present hst hvalid hg
  have hcovers : h <+: textOf ts := hts ▸ List.prefix_append h y
  by_cases hk : r.keywords = []
  · rw [r.existing_of_no_keywords _ hk, hread.header hd]
    exact hcovers.trans (List.prefix_append _ _)
  · obtain ⟨n, hexisting, -⟩ := existing_of_reads hk hh hne
      (beginsWithHeader_of_beginsLine hh hne hg) hread hd hts hy rfl
    rw [hexisting, List.append_assoc]
    exact hcovers.trans (List.prefix_append _ _)

/-- A plan leaves a document as it is or replaces what it has, where that is something. -/
theorem plan_of_existing (hskip : r.style.skip = none) (hh : r.header = some h) {s : Text}
    (hs : r.existing s ≠ []) :
    (r.plan s).action = .none ∨
      (r.plan s).action = .replace ∧ (r.plan s).deleted = r.existing s := by
  rw [plan_write s hskip hh, if_neg hs]
  split
  · exact Or.inl rfl
  · exact Or.inr ⟨rfl, rfl⟩

end HeaderRule

/-- A document that begins with the header to write, alone or with a line break of any kind behind
it, is left as it is, or its header is replaced, and what is deleted then begins with the header
that was there. So the header is not written above another copy of it, whatever the keywords are,
whatever blocks it consists of and whatever stands below it. -/
theorem present_header_not_inserted {style : Style} {lb : LineBreak} {q : Request} {h g : Text}
    (hskip : style.skip = none) (hst : style.MarkersInLine)
    (hh : (q.rule style lb.text).header = some h) (hne : h ≠ [])
    (hvalid : style.isHeader h = true) (hg : g.BeginsLine) :
    h <+: (q.rule style lb.text).existing (h ++ g) ∧
      ∃ p, (q.rule style lb.text).planned (h ++ g) = .ok p ∧
        (p.action = .none ∨ p.action = .replace ∧ h <+: p.deleted) ∧
        (q.rule style lb.text).enforce (.holding (h ++ g) lb.text) =
          (.ok p.action, .holding p.result lb.text) := by
  have hcovers : h <+: (q.rule style lb.text).existing (h ++ g) :=
    HeaderRule.prefix_existing hst hh hne hvalid hg
  have hexisting : (q.rule style lb.text).existing (h ++ g) ≠ [] := fun he =>
    hne (List.prefix_nil.1 (he ▸ hcovers))
  refine ⟨hcovers, _, HeaderRule.planned_eq _ _ (Or.inr lb.text_ne), ?_,
    HeaderRule.enforce_holding _ _ _ (Or.inr lb.text_ne)⟩
  refine (HeaderRule.plan_of_existing hskip hh hexisting).imp_right fun ⟨ha, hdeleted⟩ => ?_
  exact ⟨ha, hdeleted ▸ hcovers⟩

/-- A header of two blocks, of which none holds the keyword, is found where a line break of another
kind and a comment follow that share its last block. -/
theorem present_header_not_inserted_over_comment :
    let style := Language.BuiltIn.csharp.style
    let q : Request := ⟨some ["// License: MIT".toList, [], "// Contact us".toList], [],
      ["copyright".toList]⟩
    let rule := q.rule style LineBreak.crlf.text
    let h := "// License: MIT\r\n\r\n// Contact us".toList
    let g := "\n// About A\r\nclass A {}\r\n".toList
    style.skip = none ∧ style.MarkersInLine ∧ rule.header = some h ∧ h ≠ [] ∧
      style.isHeader h = true ∧ Text.BeginsLine g ∧
      rule.existing (h ++ g) = h ++ "\n// About A\r\n".toList ∧
      ∃ p, rule.planned (h ++ g) = .ok p ∧
        (p.action = .none ∨ p.action = .replace ∧ h <+: p.deleted) := by
  intro style q rule h g
  have hst : style.MarkersInLine := by decide
  have hh : rule.header = some h := by decide +kernel
  have hvalid : style.isHeader h = true := by decide +kernel
  have hg : Text.BeginsLine g := .lineBreak .lf _
  obtain ⟨-, p, hp, haction, -⟩ :=
    @present_header_not_inserted style .crlf q h g rfl hst hh (by decide) hvalid hg
  exact ⟨rfl, hst, hh, by decide, hvalid, hg, by decide +kernel, p, hp, haction⟩

end Letterhead

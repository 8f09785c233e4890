import Letterhead.Proofs.Header.Repetition
import Letterhead.Proofs.Text.BreakCount

/-
  The line ending of a document through a run. A header is written with the most frequent line
  break of the document, but the header that it replaces has a vote in which one that is, and the
  next run counts again without it. `lineBreak_kept_iff` counts what is left: the line ending stays
  if what is written has no fewer of its line breaks than what is deleted, so an insertion keeps
  it, unless CR is written before a document that begins with LF.
-/

namespace Letterhead

open Text

namespace HeaderRule

variable {r : HeaderRule} {lb : LineBreak} {h : Text}

theorem hasOnly_append_blankLine (hlb : r.lineBreak = lb.text) (hh : HasOnly lb h)
    (following : Text) : HasOnly lb (h ++ r.blankLine h following) := by
  rcases blankLine_cases hlb h following with hz | hz
  · rw [hz, List.append_nil]
    exact hh
  · rw [hz]
    exact hh.append_lineBreak

/-- What is written above a text adds to its line breaks only those of the header's own kind, apart
from a CR that meets LF. -/
theorem countBreaks_written (hlb : r.lineBreak = lb.text) (hh : HasOnly lb h) (b : LineBreak)
    (f : Text) : countBreaks b (r.written h f ++ f) =
      countBreaks b (h ++ r.blankLine h f) + countBreaks b (lb.text ++ f) := by
  rw [written_eq, hlb, List.append_assoc,
    countBreaks_append ((hasOnly_append_blankLine hlb hh f).apart f)]

end HeaderRule

theorem Request.hasOnly_header {q : Request} {style : Comment.Style} {s h : Text}
    (hh : (q.ruleFor style s).header = some h) : HasOnly (dominantBreak s) h := by
  obtain ⟨lines, -, rfl⟩ := Option.map_eq_some_iff.1 hh
  exact hasOnly_setLineBreaks _ _

/-- A line break before a text is counted, whether or not it meets one there. -/
theorem exists_countBreaks_pos (lb : LineBreak) (f : Text) :
    ∃ b, 0 < countBreaks b (lb.text ++ f) := by
  rcases LineBreak.exists_take?_append lb f with hb | ⟨-, g, -, hb⟩
  · exact ⟨lb, List.count_pos_iff.2 (pieces_of_take? hb ▸ List.mem_cons_self)⟩
  · exact ⟨.crlf, List.count_pos_iff.2 (pieces_of_take? hb ▸ List.mem_cons_self)⟩

/-- The most frequent line break of a document stays the same through a run with a header to write
exactly when it prevails in the rest of the document, below a line break, with the line breaks of
the header added. It does when what is deleted has no more of it than what is written and no CR
meets LF at either end of the rest. -/
theorem lineBreak_kept_iff {style : Comment.Style} {q : Request} {h t : Text}
    (hskip : style.skip = none) (hh : (q.ruleFor style t).header = some h) :
    let r := q.ruleFor style t
    let lb := dominantBreak t
    let f := r.rest t
    let n := countBreaks lb (h ++ r.blankLine h f) + countBreaks lb (lb.text ++ f)
    ∃ a u, q.run style t = (.ok a, .holding u lb.text) ∧
      (dominantBreak u = lb ↔ ∀ b ≠ lb, countBreaks b (lb.text ++ f) < n ∨
        countBreaks b (lb.text ++ f) = n ∧ lb.place < b.place) ∧
      (countBreaks lb (r.existing t) ≤ countBreaks lb (r.written h f) →
        Apart (r.existing t) f → Apart lb.text f → dominantBreak u = lb) := by
  intro r lb f n
  have honly : HasOnly lb h := Request.hasOnly_header hh
  have hz := HeaderRule.hasOnly_append_blankLine (r := r) rfl honly f
  have hcount : ∀ b, countBreaks b (r.written h f ++ f) =
      countBreaks b (h ++ r.blankLine h f) + countBreaks b (lb.text ++ f) := fun b =>
    HeaderRule.countBreaks_written rfl honly b f
  have hresult : (r.plan t).result = r.written h f ++ f := HeaderRule.result_write t hskip hh
  obtain ⟨b₀, hb₀⟩ := exists_countBreaks_pos lb f
  have hpos : 0 < countBreaks b₀ (r.written h f ++ f) := by
    rw [hcount]
    omega
  refine ⟨(r.plan t).action, r.written h f ++ f, ?_, ?_, fun hle hdeleted hwritten => ?_⟩
  · rw [q.run_eq, ← hresult]
  · rw [dominantBreak_eq_iff hpos, Prevails, hcount lb]
    refine forall₂_congr fun b hb => ?_
    rw [hcount b, hz.countBreaks_eq_zero hb, Nat.zero_add]
  · have hwritten' : r.written h f = h ++ r.blankLine h f ++ lb.text := HeaderRule.written_eq r h f
    refine dominantBreak_replaced (e := r.existing t) ?_ ?_ hle hdeleted ?_
    · rw [r.existing_append_rest]
    · rw [hwritten']
      exact hz.append_lineBreak
    · rw [hwritten']
      exact hwritten.append_left lb.text_ne _

/-- A license line in place of another one keeps the line ending. -/
theorem lineBreak_kept_in_source :
    let style := Language.BuiltIn.csharp.style
    let q := Request.license
    let t := "// License: X\r\nclass A {}\r\n".toList
    style.skip = none ∧ (q.ruleFor style t).header = some "// License: MIT".toList ∧
      ∃ a u, q.run style t = (.ok a, .holding u (dominantBreak t).text) ∧
        dominantBreak u = dominantBreak t := by
  intro style q t
  have hh : (q.ruleFor style t).header = some "// License: MIT".toList := by decide +kernel
  obtain ⟨a, u, hrun, -, hkept⟩ := @lineBreak_kept_iff style q _ t rfl hh
  exact ⟨rfl, hh, a, u, hrun, hkept (by decide +kernel) (by decide +kernel) (by decide +kernel)⟩

/-- A license line in place of a comment of three lines leaves the other line ending in the
majority, and the next run writes the license line again with that one. -/
theorem lineBreak_lost_in_source :
    let style := Language.BuiltIn.csharp.style
    let q := Request.license
    let h := "// License: MIT".toList
    let t := "// License: X\r\n// b\r\n// c\r\nusing A;\nusing B;\n".toList
    let u := "// License: MIT\r\nusing A;\nusing B;\n".toList
    style.skip = none ∧ (q.ruleFor style t).header = some h ∧ style.isHeader h = true ∧
      dominantBreak t = .crlf ∧ q.run style t = (.ok .replace, .holding u LineBreak.crlf.text) ∧
      dominantBreak u = .lf ∧ q.run style u =
        (.ok .replace, .holding "// License: MIT\nusing A;\nusing B;\n".toList LineBreak.lf.text) := by
  decide +kernel

end Letterhead

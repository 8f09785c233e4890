import Letterhead.Definition.Scope
import Letterhead.Proofs.Text.Lower
import Letterhead.Proofs.Text.Marks

/-
  The names of definition files. A directory takes a file for a definition file by its suffix, and
  a batch leaves a file alone as a definition file by the end of its path, each in lower case. The
  suffix is the end of the path, and the extension of definition files has no letter whose lower
  case depends on what stands before it, so whatever a directory takes is left alone
  (`isDefinitionPath_child`).
-/

namespace Letterhead

namespace Text

theorem endsWith_iff {mark s : Text} : endsWith mark s = true ↔ mark <:+ s := by
  rw [endsWith, beginsWith, Option.isSome_iff_exists]
  constructor
  · rintro ⟨r, hr⟩
    refine ⟨r.reverse, ?_⟩
    rw [← List.reverse_inj, eq_of_after? hr, List.reverse_append, List.reverse_reverse]
  · rintro ⟨r, rfl⟩
    exact ⟨r.reverse, by rw [List.reverse_append, after?_append]⟩

theorem suffix_joinWith (sep s : Text) (parts : List Text) :
    s <:+ joinWith sep (parts ++ [s]) := by
  induction parts with
  | nil => simp [joinWith]
  | cons x parts ih =>
    obtain ⟨y, ys, hy⟩ := List.exists_cons_of_ne_nil (List.append_ne_nil_of_right_ne_nil parts
      (List.cons_ne_nil s []))
    rw [List.cons_append, hy, joinWith, List.intercalate_cons_cons, ← joinWith, ← hy]
    exact ih.trans (List.suffix_append _ _)

end Text

namespace Path

/-- The suffix of a name is the end of the name. -/
theorem suffixOf_suffix (name : Text) : suffixOf name <:+ name := by
  rcases Text.splitFrom_cases '.' name with ⟨hnone, -⟩ | ⟨last, hlast, hsuffix⟩
  · have hsplit : Text.splitOn ['.'] name = [(Text.splitFrom ['.'] 0 name).1] := by
      rw [← hnone]
      rfl
    rw [suffixOf, hsplit]
    exact List.nil_suffix
  · have hgetLast : (Text.splitOn ['.'] name).getLast?.getD [] = last := by
      rw [Text.splitOn, List.getLast?_cons, hlast]
      rfl
    unfold suffixOf
    split
    · exact List.nil_suffix
    · rw [hgetLast]
      split
      · exact List.nil_suffix
      · split
        · exact List.nil_suffix
        · exact hsuffix
      · exact hsuffix

theorem suffix_toText_child (p : Path) (name : Text) : name <:+ (p.child name).toText := by
  have hjoin : name <:+ Text.joinWith ['/'] (p.child name).parts :=
    Text.suffix_joinWith ['/'] name p.parts
  have hne : (p.child name).parts ≠ [] := by simp [child]
  unfold toText
  split
  · exact hjoin.trans (List.suffix_append _ _)
  · exact hjoin

end Path

theorem not_mem_of_lower_eq {s : Text} (h : Text.lower s = definitionExtension) : 'Σ' ∉ s := by
  intro hs
  have hsigma := Text.sigma_mem_lowerFrom hs []
  rw [← Text.lower, h] at hsigma
  revert hsigma
  decide

/-- A file that has the suffix of definition files is left alone, wherever its path comes from. -/
theorem isDefinitionPath_child {name : Text}
    (h : Text.lower (Path.suffixOf name) = definitionExtension) (p : Path) :
    isDefinitionPath (p.child name).toText = true := by
  obtain ⟨x, hx⟩ := (Path.suffixOf_suffix name).trans (p.suffix_toText_child name)
  obtain ⟨y, hy⟩ := Text.exists_lower_append (not_mem_of_lower_eq h) x
  rw [isDefinitionPath, Text.endsWith_iff, ← hx, hy, h]
  exact List.suffix_append _ _

end Letterhead

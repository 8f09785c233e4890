import Letterhead.Proofs.Header.History
import Letterhead.Proofs.Language.Prolog

/-
  Declarations of XML documents. A declaration without a line feed stays first, whatever a rule does
  below it. One with a line feed in it is not found as such; the document then begins with text
  that is no comment, so a header goes above the declaration, and only a rule that writes none
  leaves it first (`declaration_first_iff`).
-/

namespace Letterhead

open Letterhead.Comment

/-! ## Texts that begin with a declaration -/

/-- A text that begins with a solid character and no marker has no header. -/
theorem Comment.Style.header_of_no_opening {st : Style} {s : Text} (hs : BeginsSolid s)
    (ho : st.opening? s = none) : st.header s = [] := by
  have hhalts : st.Halts 0 ([] ++ s) .otherText :=
    .otherText gap_nil hs (Style.opening?_eq_none_iff.1 ho)
  have hnext : st.next 0 s = .error .otherText :=
    (hhalts.next.resolve_right fun h => nomatch h.1).1
  unfold Style.header Style.headerTokens
  rw [Style.run_of_error hnext]
  rfl

theorem header_of_declaration {t : Text} (ht : "<?xml".toList <+: t) :
    Language.BuiltIn.xml.style.header t = [] := by
  obtain ⟨s, rfl⟩ := ht
  refine Style.header_of_no_opening ⟨'<', _, rfl, by decide⟩ (Style.opening?_eq_none_iff.2 ?_)
  intro m o hm hs
  obtain rfl : m = "<!--".toList := by
    have hmem := Style.mem_openings_iff.2 hm
    simp [Style.openings, Language.BuiltIn.xml, Delimiters.ofStrings] at hmem
    exact hmem.1
  simp at hs

namespace HeaderRule

variable {r : HeaderRule} {lb : LineBreak} {t x y : Text}

/-- What is above the header stays first. -/
theorem above_prefix_result (r : HeaderRule) (s : Text) : r.above s <+: (r.plan s).result := by
  have hplan := r.plans_plan s
  generalize r.plan s = p at hplan
  cases hplan <;> exact (List.prefix_append _ _).trans (List.prefix_append _ _)

section Declared

variable (hr : r.style = Language.BuiltIn.xml.style) (ht : "<?xml".toList <+: t)
  (hend : Text.cutAt? "?>".toList t = some (x, y))

include hr ht hend

theorem declaration_prefix_above (hx : '\n' ∉ x) : x ++ "?>".toList <+: r.above t := by
  obtain ⟨covered, rest, hcut, hcovered⟩ :=
    Language.BuiltIn.cutStart?_xmlProlog_of_not_mem ht hend hx
  have hskip : r.style.skip = some Language.BuiltIn.xmlProlog := hr ▸ rfl
  cases covered with
  | nil => simp at hcovered
  | cons c covered =>
    unfold above
    rw [hskip, Option.bind_some, hcut]
    dsimp only
    split
    · exact hcovered.trans (List.prefix_append _ _)
    · exact hcovered

theorem above_of_broken_declaration (hx : '\n' ∈ x) : r.above t = [] := by
  have hskip : r.style.skip = some Language.BuiltIn.xmlProlog := hr ▸ rfl
  unfold above
  rw [hskip, Option.bind_some, Language.BuiltIn.cutStart?_xmlProlog_of_mem ht hend hx]

theorem body_of_broken_declaration (hx : '\n' ∈ x) : r.body t = t := by
  have happend := r.above_append_body t
  rwa [above_of_broken_declaration hr ht hend hx, List.nil_append] at happend

omit hend in
theorem rest_of_declaration : r.rest t = t := by
  rw [rest, r.existing_eq_nil t (hr ▸ header_of_declaration ht), List.length_nil, List.drop_zero]

/-- A header goes above a declaration that is not found. -/
theorem not_declaration_prefix_result (hlb : r.lineBreak = lb.text) {h : Text}
    (hh : r.header = some h) (hvalid : r.style.isHeader h = true) (hx : '\n' ∈ x) :
    ¬ "<?xml".toList <+: (r.plan t).result := by
  have habove := above_of_broken_declaration hr ht hend hx
  have hst : r.style.MarkersInLine :=
    hr ▸ markersInLine_of_mem_builtIn _ (by simp [Language.BuiltIn.all])
  rw [r.result_plan_eq t hlb hh (Or.inl habove), body_of_broken_declaration hr ht hend hx,
    rest_of_declaration hr ht, habove, parted, if_pos (Or.inl rfl)]
  simp only [List.nil_append]
  intro hfirst
  -- The header that is written would be one, and a text that begins with a declaration has none.
  have hnone := header_of_declaration hfirst
  have happend := r.style.header_append_below (r.written h t ++ t)
  have hbelow := r.style.header_append_below t
  rw [below_written hst hlb hvalid] at happend
  rw [hr, header_of_declaration ht, List.nil_append] at hbelow
  rw [hr, hbelow, hnone, List.nil_append] at happend
  exact r.written_ne_nil_of_lineBreak hlb h t (List.append_left_eq_self.1 happend.symm)

theorem result_of_no_header (hh : r.header = none) (hx : '\n' ∈ x) : (r.plan t).result = t := by
  have hexisting : r.existing (r.body t) = [] := by
    rw [body_of_broken_declaration hr ht hend hx]
    exact r.existing_eq_nil t (hr ▸ header_of_declaration ht)
  refine r.result_plan_of_not_changes t ?_
  have hplan := r.plans_plan t
  generalize r.plan t = p at hplan
  cases hplan with
  | keep _ => rfl
  | remove _ he => exact absurd hexisting he
  | write h hh' _ => simp [hh] at hh'

end Declared

/-- A rule for XML documents, with a header that is one or with none, with keywords or without,
keeps the declaration of a document first exactly when there is no line feed in the declaration or
the rule has no header to write. -/
theorem declaration_first_iff (hr : r.style = Language.BuiltIn.xml.style)
    (hb : r.header = none ∨ r.lineBreak = lb.text) (hvalid : r.acceptsHeader = true)
    (ht : "<?xml".toList <+: t) (hend : Text.cutAt? "?>".toList t = some (x, y)) :
    ∃ p, r.planned t = .ok p ∧
      (x ++ "?>".toList <+: p.result ↔ '\n' ∉ x ∨ r.header = none) := by
  have hp : r.header = none ∨ r.lineBreak ≠ [] := hb.imp_right fun hlb => by
    rw [hlb]
    exact lb.text_ne
  refine ⟨r.plan t, r.planned_eq t hp, fun hfirst => ?_, fun hkept => ?_⟩
  · rw [or_iff_not_imp_right]
    intro hsome hx
    obtain ⟨h, hh⟩ := Option.ne_none_iff_exists'.1 hsome
    obtain ⟨a, hxa, -⟩ := Language.BuiltIn.exists_declaration ht hend
    refine not_declaration_prefix_result hr ht hend (hb.resolve_left hsome) hh ?_ hx ?_
    · simpa [acceptsHeader, hh] using hvalid
    · rw [hxa, List.append_assoc] at hfirst
      exact (List.prefix_append _ _).trans hfirst
  · by_cases hx : '\n' ∈ x
    · rw [result_of_no_header hr ht hend (hkept.resolve_left (not_not_intro hx)) hx,
        Text.eq_of_cutAt? hend]
      exact List.prefix_append _ _
    · exact (declaration_prefix_above hr ht hend hx).trans (r.above_prefix_result t)

end HeaderRule

/-- A request for a license line in an XML document that replaces comments with the word in them. -/
def Request.xmlLicense : Request := ⟨some ["<!-- License: MIT -->".toList], [], ["license".toList]⟩

theorem acceptsHeader_xmlLicense :
    (Request.xmlLicense.rule Language.BuiltIn.xml.style LineBreak.lf.text).acceptsHeader = true := by
  let h := "<!-- License: MIT -->".toList
  exact Style.isHeader_of_next (s := h) (t := ⟨[], .block, h⟩) rfl rfl

/-- The license line goes below a declaration with tabs and CR in it. -/
theorem declaration_first_in_document :
    let r := Request.xmlLicense.rule Language.BuiltIn.xml.style LineBreak.lf.text
    let x := "<?xml version=\"1.0\"\t\rencoding=\"UTF-8\"".toList
    let y := "\n<root/>\n".toList
    let t := x ++ ("?>".toList ++ y)
    r.acceptsHeader = true ∧ "<?xml".toList <+: t ∧ Text.cutAt? "?>".toList t = some (x, y) ∧
      ∃ p, r.planned t = .ok p ∧ x ++ "?>".toList <+: p.result := by
  intro r x y t
  have hvalid : r.acceptsHeader = true := acceptsHeader_xmlLicense
  have ht : "<?xml".toList <+: t := by decide
  have hend : Text.cutAt? "?>".toList t = some (x, y) := by rfl
  have hlb : r.lineBreak = LineBreak.lf.text := rfl
  obtain ⟨p, hp, hfirst⟩ := HeaderRule.declaration_first_iff (r := r) rfl (Or.inr hlb) hvalid ht hend
  exact ⟨hvalid, ht, hend, p, hp, hfirst.2 (Or.inl (by decide))⟩

/-- The license line goes above a declaration of two lines. -/
theorem license_above_declaration :
    let r := Request.xmlLicense.rule Language.BuiltIn.xml.style LineBreak.lf.text
    let x := "<?xml version=\"1.0\"\n encoding=\"UTF-8\"".toList
    let y := "\n<root/>\n".toList
    let t := x ++ ("?>".toList ++ y)
    r.acceptsHeader = true ∧ "<?xml".toList <+: t ∧ Text.cutAt? "?>".toList t = some (x, y) ∧
      r.planned t = .ok ⟨.insert, [], [], "<!-- License: MIT -->\n".toList, t⟩ ∧
      ¬ x ++ "?>".toList <+: "<!-- License: MIT -->\n".toList ++ t := by
  intro r x y t
  have hvalid : r.acceptsHeader = true := acceptsHeader_xmlLicense
  have ht : "<?xml".toList <+: t := by decide
  have hend : Text.cutAt? "?>".toList t = some (x, y) := by rfl
  have hx : '\n' ∈ x := by decide
  have hbody : r.body t = t := HeaderRule.body_of_broken_declaration rfl ht hend hx
  have hnone : r.existing (r.body t) = [] := by
    rw [hbody]
    exact r.existing_eq_nil t (header_of_declaration ht)
  have hplan : r.planned t = .ok ⟨.insert, [], [], "<!-- License: MIT -->\n".toList, t⟩ := by
    rw [r.planned_eq t (Or.inr (by decide)),
      r.plan_of_insertion t (h := "<!-- License: MIT -->".toList) rfl (by decide) hnone,
      HeaderRule.above_of_broken_declaration rfl ht hend hx, hbody]
    rfl
  exact ⟨hvalid, ht, hend, hplan, by decide⟩

end Letterhead

import Letterhead.Proofs.Header.History
import Letterhead.Proofs.Header.Keywords

/-
  Repeating a request with keywords. After one run the document begins with the header that is
  asked for, but a second run need not agree: what it finds is the header up to the next block, and
  a blank first line of the rest, or a comment there that is no block of its own, belongs to it.
  `plan_again_iff` says exactly when the second run has nothing to do (`Settles`).
-/

namespace Letterhead

open Letterhead.Comment

namespace HeaderRule

variable {r : HeaderRule} {lb : LineBreak} {h : Text}

/-- The rest `f` of a document settles below the header `h`. Either it does not begin with a blank
line, and what is written for the header parts it from a comment there. Or it begins with an empty
line that stands where a further run writes one. -/
def Settles (r : HeaderRule) (h f : Text) : Prop :=
  Text.startsBlank f = false ∧
      (r.style.header f = [] ∨ r.style.partsBelow (r.written h f) = true) ∨
    ∃ g, f = r.lineBreak ++ g ∧ Text.startsBlank g = false ∧
      r.style.startsWithComment g = true ∧ r.endsWithBlankLine h = false

theorem startsWithComment_append_line {style : Style} (hst : style.MarkersInLine) (lb : LineBreak)
    (g : Text) : style.startsWithComment (lb.text ++ g) = false := by
  rcases LineBreak.exists_take?_append lb g with hb | ⟨-, g', -, hb⟩
  · exact Style.startsWithComment_of_take? hst hb
  · exact Style.startsWithComment_of_take? hst hb

theorem isBreakChar_of_mem_blankLine (hlb : r.lineBreak = lb.text) (h following : Text) :
    ∀ c ∈ r.blankLine h following, isBreakChar c = true := by
  intro c hc
  rcases blankLine_cases hlb h following with hz | hz
  · rw [hz] at hc
    cases hc
  · exact LineBreak.isBreakChar_of_mem_text (hz ▸ hc)

theorem rest_of_existing_eq {s e g : Text} (he : r.existing s = e) (hs : s = e ++ g) :
    r.rest s = g := by
  have := r.existing_append_rest s
  rw [he] at this
  exact List.append_cancel_left (this.trans hs)

/-! ## The second run

The header `h` above the text `f`, as the first run leaves them, when no block of `f` holds a
keyword. -/

section Second

variable {f : Text} (hst : r.style.MarkersInLine) (hlb : r.lineBreak = lb.text)
  (hk : r.keywords ≠ []) (hh : r.header = some h) (hne : h ≠ [])
  (hvalid : r.style.isHeader h = true)

include hst hlb hk hh hne hvalid

theorem existing_written (hnone : ∀ x ∈ r.style.blocks f, r.hasKeyword x = false)
    (hf : Text.startsBlank f = false)
    (hparts : r.style.header f = [] ∨ r.style.partsBelow (r.written h f) = true) :
    r.existing (r.written h f ++ f) = r.written h (r.rest (r.written h f ++ f)) := by
  have hvalid' := isHeader_append_blankLine hst hlb hvalid f
  rw [written_eq, hlb] at hparts
  have hexisting := existing_joined hst hk hh hne (isBreakChar_of_mem_blankLine hlb h f) hvalid' hf
    hnone hparts
  rw [← List.append_assoc, ← hlb, ← written_eq] at hexisting
  rw [rest_of_existing_eq hexisting rfl, hexisting]

theorem existing_written_of_not_parted (hf : Text.startsBlank f = false)
    (hheader : r.style.header f ≠ []) (hparts : r.style.partsBelow (r.written h f) = false) :
    r.existing (r.written h f ++ f) ≠ r.written h (r.rest (r.written h f ++ f)) := by
  have hvalid' := isHeader_append_blankLine hst hlb hvalid f
  rw [written_eq, hlb] at hparts
  obtain ⟨x, hexisting, c, hc, hsolid⟩ := existing_joined_solid hst hk hh hne
    (isBreakChar_of_mem_blankLine hlb h f) hvalid' hf hheader hparts
  rw [← List.append_assoc, ← hlb, ← written_eq] at hexisting
  rw [hexisting]
  intro heq
  rw [written_eq, written_eq, hlb] at heq
  simp only [List.append_assoc, List.append_cancel_left_eq] at heq
  -- Behind the header only line breaks are written.
  have hmem : c ∈ r.blankLine h (r.rest (r.written h f ++ f)) ++ lb.text := by
    rw [written_eq, hlb, List.append_assoc, List.append_assoc, ← heq]
    simp [hc]
  have hbreak : isBreakChar c = true := (List.mem_append.1 hmem).elim
    (isBreakChar_of_mem_blankLine hlb h _ c) LineBreak.isBreakChar_of_mem_text
  rw [isBlank_of_isBreakChar hbreak] at hsolid
  cases hsolid

/-- When `f` begins with a blank line, the second run can only agree if that line is empty and the
run writes an empty line in its place. -/
theorem existing_written_of_startsBlank (hf : Text.startsBlank f = true)
    (heq : r.existing (r.written h f ++ f) = r.written h (r.rest (r.written h f ++ f))) :
    ∃ g, f = r.lineBreak ++ g ∧ Text.startsBlank g = false ∧
      r.style.startsWithComment g = true ∧ r.endsWithBlankLine h = false := by
  have hz := isBreakChar_of_mem_blankLine hlb h f
  have hvalid' := isHeader_append_blankLine hst hlb hvalid f
  have hlt := length_lt_existing_joined hst hk hh hne hz hvalid' lb hf
  have hjoin : r.written h f ++ f = h ++ r.blankLine h f ++ (lb.text ++ f) := by
    rw [written_eq, hlb, List.append_assoc]
  have happend := r.existing_append_rest (r.written h f ++ f)
  rw [← hjoin, heq] at hlt
  rw [heq] at happend
  generalize r.rest (r.written h f ++ f) = g at heq hlt happend
  rw [written_eq, hlb] at hlt
  simp only [List.length_append] at hlt
  -- Of the two texts written only the second has the empty line.
  have hsecond : r.blankLine h g = lb.text := by
    refine (blankLine_cases hlb h g).resolve_left fun hnil => ?_
    rw [hnil, List.length_nil] at hlt
    omega
  have hfirst : r.blankLine h f = [] := by
    refine (blankLine_cases hlb h f).resolve_right fun hline => ?_
    rw [hsecond, hline] at hlt
    omega
  have hfg : f = r.lineBreak ++ g := by
    rw [written_eq, written_eq, hfirst, hsecond, hlb] at happend
    simp only [List.append_assoc, List.nil_append, List.append_cancel_left_eq] at happend
    rw [hlb, ← happend]
  obtain ⟨hends, hstarts⟩ := of_blankLine_ne_nil (hsecond ▸ lb.text_ne)
  refine ⟨g, hfg, ?_, hstarts, hends⟩
  rw [Bool.eq_false_iff]
  intro hg
  have hlt' := length_lt_existing_joined hst hk hh hne
    (fun c => LineBreak.isBreakChar_of_mem_text) (Style.isHeader_append_line hst hvalid lb) lb hg
  rw [hjoin, hfirst, hfg, written_eq, hsecond, hlb, List.append_nil] at heq
  rw [List.append_assoc h lb.text (lb.text ++ g), heq] at hlt'
  exact lt_irrefl _ hlt'

theorem existing_written_of_empty_line {g : Text}
    (hnone : ∀ x ∈ r.style.blocks (r.lineBreak ++ g), r.hasKeyword x = false)
    (hg : Text.startsBlank g = false) (hstarts : r.style.startsWithComment g = true)
    (hends : r.endsWithBlankLine h = false) :
    r.existing (r.written h (r.lineBreak ++ g) ++ (r.lineBreak ++ g)) =
      r.written h (r.rest (r.written h (r.lineBreak ++ g) ++ (r.lineBreak ++ g))) := by
  have hfirst : r.blankLine h (r.lineBreak ++ g) = [] := by
    by_contra hne'
    have hstarts' := (of_blankLine_ne_nil hne').2
    rw [hlb, startsWithComment_append_line hst lb g] at hstarts'
    cases hstarts'
  have hsecond : r.written h g = h ++ lb.text ++ lb.text := by
    rw [written_eq, blankLine_of_comment hends hstarts, hlb]
  have hnone' : ∀ x ∈ r.style.blocks g, r.hasKeyword x = false := fun x hx =>
    hnone x (by rw [hlb]; exact Style.mem_blocks_of_blank_line hg hx)
  have hexisting := existing_joined hst hk hh hne (fun c => LineBreak.isBreakChar_of_mem_text)
    (Style.isHeader_append_line hst hvalid lb) hg hnone'
    (Or.inr (Style.partsBelow_append_lines hst hvalid lb))
  have hjoin : r.written h (r.lineBreak ++ g) ++ (r.lineBreak ++ g) =
      h ++ lb.text ++ (lb.text ++ g) := by
    rw [written_eq, hfirst, hlb, List.append_nil]
  rw [← hjoin] at hexisting
  rw [rest_of_existing_eq hexisting (by rw [hjoin, List.append_assoc (h ++ lb.text)]), hsecond,
    hexisting]

end Second

/-- A plan for a document that a plan of the same rule has made does nothing exactly when the rest
of the first document settles below the header. -/
theorem plan_again_iff (hskip : r.style.skip = none) (hst : r.style.MarkersInLine)
    (hlb : r.lineBreak = lb.text) (hk : r.keywords ≠ []) (hh : r.header = some h) (hne : h ≠ [])
    (hvalid : r.style.isHeader h = true) (s : Text) :
    (r.plan (r.plan s).result).action = .none ↔ r.Settles h (r.rest s) := by
  rw [action_eq_none_iff _ hskip hh, result_write s hskip hh]
  have hnone := not_hasKeyword_rest hk s
  generalize r.rest s = f at hnone
  constructor
  · intro heq
    cases hf : Text.startsBlank f with
    | true =>
      exact Or.inr (existing_written_of_startsBlank hst hlb hk hh hne hvalid hf heq)
    | false =>
      refine Or.inl ⟨hf, or_iff_not_imp_left.2 fun hheader => ?_⟩
      rw [← Bool.not_eq_false]
      intro hparts
      exact existing_written_of_not_parted hst hlb hk hh hne hvalid hf hheader hparts heq
  · rintro (⟨hf, hparts⟩ | ⟨g, rfl, hg, hstarts, hends⟩)
    · exact existing_written hst hlb hk hh hne hvalid hnone hf hparts
    · exact existing_written_of_empty_line hst hlb hk hh hne hvalid hnone hg hstarts hends

end HeaderRule

/-! ## Requests -/

theorem normalKeywords_ne_nil {ks : List Text} (hk : ∃ k ∈ ks, Text.allBlank k = false) :
    normalKeywords ks ≠ [] := by
  obtain ⟨k, hmem, hblank⟩ := hk
  unfold normalKeywords
  refine mt List.map_eq_nil_iff.1 (List.ne_nil_of_mem (a := k) ?_)
  exact List.mem_filter.2 ⟨hmem, by simp [hblank]⟩

/-- A request with keywords and a header of the style is carried out on any document, and to repeat
it changes nothing exactly when the rest of that document settles below the header. -/
theorem enforce_again_iff {style : Comment.Style} {lb : LineBreak} {h : Text} {q : Request}
    (hskip : style.skip = none) (hst : style.MarkersInLine)
    (hh : (q.rule style lb.text).header = some h) (hne : h ≠ [])
    (hvalid : style.isHeader h = true) (hk : ∃ k ∈ q.keywords, Text.allBlank k = false)
    (t : Text) :
    ∃ a s, (q.rule style lb.text).enforce (.holding t lb.text) = (.ok a, .holding s lb.text) ∧
      ((q.rule style lb.text).enforce (.holding s lb.text) =
          (.ok .none, .holding s lb.text) ↔
        (q.rule style lb.text).Settles h ((q.rule style lb.text).rest t)) := by
  refine ⟨_, _, HeaderRule.enforce_holding _ t lb.text (Or.inr lb.text_ne), ?_⟩
  rw [← HeaderRule.plan_again_iff hskip hst rfl (normalKeywords_ne_nil hk) hh hne hvalid,
    HeaderRule.enforce_holding _ _ lb.text (Or.inr lb.text_ne)]
  constructor
  · intro hrun
    simpa using congrArg Prod.fst hrun
  · intro hidle
    rw [hidle, HeaderRule.result_plan_of_not_changes _ _ (by rw [Plan.changes, hidle]; rfl)]

/-- A comment without the keyword settles below the license line. -/
theorem license_again_over_comment :
    let rule := Request.license.rule Language.BuiltIn.csharp.style LineBreak.lf.text
    let t := "// about A\nclass A {}\n".toList
    Language.BuiltIn.csharp.style.skip = none ∧ Language.BuiltIn.csharp.style.MarkersInLine ∧
      rule.header = some "// License: MIT".toList ∧ "// License: MIT".toList ≠ [] ∧
      Language.BuiltIn.csharp.style.isHeader "// License: MIT".toList = true ∧
      (∃ k ∈ Request.license.keywords, Text.allBlank k = false) ∧
      ∃ a s, rule.enforce (.holding t LineBreak.lf.text) =
          (.ok a, .holding s LineBreak.lf.text) ∧
        (rule.enforce (.holding s LineBreak.lf.text) =
            (.ok .none, .holding s LineBreak.lf.text) ↔
          rule.Settles "// License: MIT".toList (rule.rest t)) :=
  have hst := markersInLine_of_mem_builtIn _ List.mem_cons_self
  have hh : (Request.license.rule Language.BuiltIn.csharp.style LineBreak.lf.text).header =
      some "// License: MIT".toList := by decide +kernel
  have hvalid : Language.BuiltIn.csharp.style.isHeader "// License: MIT".toList = true := by
    decide +kernel
  have hk : ∃ k ∈ Request.license.keywords, Text.allBlank k = false :=
    ⟨_, List.mem_cons_self, by decide⟩
  ⟨rfl, hst, hh, by decide, hvalid, hk, enforce_again_iff rfl hst hh (by decide) hvalid hk _⟩

/-- A blank line above the code does not settle: the second run takes it for a part of the header
that the first run has written, and deletes it. -/
theorem license_again_over_blank_line :
    let rule := Request.license.rule Language.BuiltIn.csharp.style LineBreak.lf.text
    rule.style.skip = none ∧ rule.style.MarkersInLine ∧ rule.acceptsHeader = true ∧
      rule.header ≠ some [] ∧ rule.keywords ≠ [] ∧
      rule.enforce (.holding "\nclass A {}\n".toList LineBreak.lf.text) =
        (.ok .insert, .holding "// License: MIT\n\nclass A {}\n".toList LineBreak.lf.text) ∧
      rule.enforce (.holding "// License: MIT\n\nclass A {}\n".toList LineBreak.lf.text) =
        (.ok .replace, .holding "// License: MIT\nclass A {}\n".toList LineBreak.lf.text) := by
  decide +kernel

end Letterhead

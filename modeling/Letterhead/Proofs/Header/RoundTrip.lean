import Letterhead.Proofs.Header.Repetition

/-
  Round trips: a header is put on a document and taken off again. Over a document that begins with
  no comment run this gives the document back (`removal_undoes_insertion`). Over one that begins
  with a comment without a keyword it does so exactly when a blank line parts the two; otherwise
  the first block of that comment is taken off as well (`removal_over_comment`). What decides is
  whether the text is seen to start with a comment, and only spaces and tabs are looked through for
  that, not all blank space.
-/

namespace Letterhead

open Letterhead.Comment

namespace HeaderRule

/-- The rule that takes headers off by the keywords of another. -/
def removal (r : HeaderRule) (m : Text) : HeaderRule := { r with header := none, lineBreak := m }

/-! ## The header that is found below what was written -/

section Written

variable {r : HeaderRule} {lb : LineBreak} {h : Text} {first : List Text} {last : Text}

theorem isBreakChar_of_behind (hlb : r.lineBreak = lb.text) (h following x : Text) :
    ∀ c ∈ (r.blankLine h following ++ lb.text ++ x).head?, isBreakChar c = true := by
  have hall : ∀ c ∈ r.blankLine h following ++ lb.text, isBreakChar c = true := fun c hc =>
    (List.mem_append.1 hc).elim (isBreakChar_of_mem_blankLine hlb h following c)
      LineBreak.isBreakChar_of_mem_text
  have hne : r.blankLine h following ++ lb.text ≠ [] := by simp [lb.text_ne]
  generalize r.blankLine h following ++ lb.text = y at hall hne
  cases y with
  | nil => exact absurd rfl hne
  | cons d y =>
    rintro c ⟨⟩
    exact hall d List.mem_cons_self

variable (hst : r.style.MarkersInLine) (hlb : r.lineBreak = lb.text)
  (hvalid : r.style.isHeader h = true) (hblocks : r.style.blocks h = first ++ [last])

include hst hlb hvalid hblocks

theorem blocks_written (following : Text) : r.style.blocks (r.written h following) =
    first ++ [last ++ (r.blankLine h following ++ lb.text)] := by
  have hz : r.style.blocks (h ++ r.blankLine h following) =
      first ++ [last ++ r.blankLine h following] := by
    rcases blankLine_cases hlb h following with hz | hz
    · rw [hz, List.append_nil, List.append_nil, hblocks]
    · rw [hz, Style.blocks_append_line hst hvalid hblocks]
  rw [written_eq, hlb, Style.blocks_append_line hst
    (isHeader_append_blankLine hst hlb hvalid following) hz, List.append_assoc]

variable (hk : r.keywords ≠ []) (hlast : r.hasKeyword last = true) {g : Text}
  (hg : Text.startsBlank g = false) (hlater : ∀ x ∈ r.style.blocks g, r.hasKeyword x = false)

include hk hlast hg hlater

/-- What was written is found again when a comment below it is a block of its own. -/
theorem existing_removal
    (hparts : r.style.header g = [] ∨ r.style.partsBelow (r.written h g) = true) (m : Text) :
    (r.removal m).existing (r.written h g ++ g) = r.written h g := by
  have hw := blocks_written hst hlb hvalid hblocks g
  have hflat := Style.flatten_blocks_of_isHeader (isHeader_written hst hlb hvalid g)
  have hkey : r.hasKeyword (last ++ (r.blankLine h g ++ lb.text)) = true := by
    have hbreaks := isBreakChar_of_behind hlb h g []
    rw [List.append_nil] at hbreaks
    exact hasKeyword_append hbreaks hlast
  have hjoined : r.style.blocks (r.written h g ++ g) =
      first ++ (last ++ (r.blankLine h g ++ lb.text)) :: r.style.blocks g := by
    rw [written_eq, hlb] at hw hparts ⊢
    exact Style.blocks_joined hst (isHeader_append_blankLine hst hlb hvalid g) lb hg hw hparts
  rw [existing_through (r := r.removal m) hk rfl hjoined hkey hlater]
  rwa [hw, List.flatten_append, List.flatten_singleton] at hflat

/-- Without a blank line between them the first block of a comment below is found with what was
written. -/
theorem existing_removal_of_not_parted (hheader : r.style.header g ≠ [])
    (hparts : r.style.partsBelow (r.written h g) = false) :
    ∃ x s, g = x ++ s ∧ (r.style.blocks g).head? = some x ∧ (∃ c ∈ x, isBlank c = false) ∧
      ∀ m, (r.removal m).existing (r.written h g ++ g) = r.written h g ++ x := by
  have hw := blocks_written hst hlb hvalid hblocks g
  have hflat := Style.flatten_blocks_of_isHeader (isHeader_written hst hlb hvalid g)
  obtain ⟨x, later, hx, hjoined⟩ : ∃ x later, r.style.blocks g = x :: later ∧
      r.style.blocks (r.written h g ++ g) =
        first ++ (last ++ (r.blankLine h g ++ lb.text) ++ x) :: later := by
    rw [written_eq, hlb] at hw hparts ⊢
    exact Style.blocks_joined_of_not_parted hst (isHeader_append_blankLine hst hlb hvalid g) lb hg
      hw hheader hparts
  have hkey : r.hasKeyword (last ++ (r.blankLine h g ++ lb.text) ++ x) = true := by
    rw [List.append_assoc]
    exact hasKeyword_append (isBreakChar_of_behind hlb h g x) hlast
  rw [hx, List.forall_mem_cons] at hlater
  have hsplit := r.style.header_append_below g
  rw [← Style.blocks_flatten, hx, List.flatten_cons, List.append_assoc] at hsplit
  refine ⟨x, later.flatten ++ r.style.below g, hsplit.symm, by rw [hx]; rfl,
    Style.solid_of_first_block hg hx, fun m => ?_⟩
  rw [existing_through (r := r.removal m) hk rfl hjoined hkey hlater.2]
  rw [hw, List.flatten_append, List.flatten_singleton] at hflat
  rw [← List.append_assoc, hflat]

end Written

/-- Below a header a text without a comment run is left alone. -/
theorem existing_removal_of_no_header {r : HeaderRule} {lb : LineBreak} {h g : Text}
    (hst : r.style.MarkersInLine) (hlb : r.lineBreak = lb.text)
    (hvalid : r.style.isHeader h = true) (hg : r.style.header g = [])
    (hk : r.keywords = [] ∨
      ∃ x, (r.style.blocks h).getLast? = some x ∧ r.hasKeyword x = true) (m : Text) :
    (r.removal m).existing (r.written h g ++ g) = r.written h g := by
  by_cases hnil : r.keywords = []
  · have happend := r.style.header_append_below (r.written h g ++ g)
    have hbelow := r.style.header_append_below g
    rw [below_written hst hlb hvalid] at happend
    rw [hg, List.nil_append] at hbelow
    rw [hbelow] at happend
    rw [(r.removal m).existing_of_no_keywords _ hnil]
    exact List.append_cancel_right happend
  · obtain ⟨x, hlast, hx⟩ := hk.resolve_left hnil
    obtain ⟨first, hblocks⟩ := List.getLast?_eq_some_iff.1 hlast
    refine existing_removal hst hlb hvalid hblocks hnil hx (Style.startsBlank_of_no_header hg) ?_
      (Or.inl hg) m
    rw [Style.blocks_eq_nil hg]
    exact fun y hy => nomatch hy

/-- A rule that takes headers off deletes the header that it finds below what it skips. -/
theorem plan_removal {r : HeaderRule} {m a w g : Text} (habove : r.above (a ++ (w ++ g)) = a)
    (hw : w ≠ []) (he : (r.removal m).existing (w ++ g) = w) :
    ((r.removal m).plan (a ++ (w ++ g))).action = .remove ∧
      ((r.removal m).plan (a ++ (w ++ g))).result = a ++ g := by
  have habove' : (r.removal m).above (a ++ (w ++ g)) = a := habove
  have hbody : (r.removal m).body (a ++ (w ++ g)) = w ++ g := by
    have happend := (r.removal m).above_append_body (a ++ (w ++ g))
    rw [habove'] at happend
    exact List.append_cancel_left happend
  have hplan := (r.removal m).plan_of_removal (a ++ (w ++ g)) rfl (by rwa [hbody, he])
  rw [habove', hbody, he, rest_of_existing_eq he rfl] at hplan
  rw [hplan]
  exact ⟨rfl, by simp [Plan.result]⟩

end HeaderRule

/-! ## Requests -/

/-- The request to take a header off with the same keywords. -/
def Request.toRemoval (q : Request) : Request := { q with template := none }

theorem Request.removal_run {q : Request} {style : Comment.Style} {s a w g : Text}
    (habove : (q.ruleFor style s).above (a ++ (w ++ g)) = a) (hw : w ≠ [])
    (he : ∀ m, ((q.ruleFor style s).removal m).existing (w ++ g) = w) :
    q.toRemoval.run style (a ++ (w ++ g)) =
      (.ok .remove, .holding (a ++ g) (Text.dominantBreak (a ++ (w ++ g))).text) := by
  have hrule : q.toRemoval.ruleFor style (a ++ (w ++ g)) =
      (q.ruleFor style s).removal (Text.dominantBreak (a ++ (w ++ g))).text := rfl
  obtain ⟨haction, hresult⟩ := HeaderRule.plan_removal habove hw
    (he (Text.dominantBreak (a ++ (w ++ g))).text)
  rw [Request.run_eq, hrule, haction, hresult]

theorem normalKeywords_eq_nil {ks : List Text} (hk : ∀ k ∈ ks, Text.allBlank k = true) :
    normalKeywords ks = [] := by
  unfold normalKeywords
  rw [List.map_eq_nil_iff, List.filter_eq_nil_iff]
  intro k hmem
  simp [hk k hmem]

/-- A request on a document that begins with no comment run, below what is skipped, inserts its
header, and to take the header off gives the document back, if the same text is skipped then. -/
theorem removal_undoes_insertion {style : Comment.Style} {q : Request} {h t : Text}
    (hst : style.MarkersInLine) (hh : (q.ruleFor style t).header = some h) (hne : h ≠ [])
    (hvalid : style.isHeader h = true) (hbody : style.header ((q.ruleFor style t).body t) = [])
    (habove : (q.ruleFor style t).above t = [] ∨
      Text.endsLine ((q.ruleFor style t).above t) = true)
    (hk : (∀ k ∈ q.keywords, Text.allBlank k = true) ∨
      ∃ x, (style.blocks h).getLast? = some x ∧ (q.ruleFor style t).hasKeyword x = true) :
    ∃ u, q.run style t = (.ok .insert, .holding u (Text.dominantBreak t).text) ∧
      ((q.toRemoval.ruleFor style u).above u = (q.ruleFor style t).above t →
        q.toRemoval.run style u = (.ok .remove, .holding t (Text.dominantBreak u).text)) := by
  have hfound := HeaderRule.existing_removal_of_no_header (r := q.ruleFor style t) hst rfl hvalid
    hbody (hk.imp_left normalKeywords_eq_nil)
  have hw := (q.ruleFor style t).written_ne_nil hne ((q.ruleFor style t).body t)
  have hsource := (q.ruleFor style t).above_append_body t
  have hplan := (q.ruleFor style t).plan_of_insertion t hh hne
    ((q.ruleFor style t).existing_eq_nil _ hbody)
  rw [HeaderRule.parted, if_pos habove, List.nil_append] at hplan
  have hinsert : q.run style t = (.ok .insert, .holding ((q.ruleFor style t).above t ++
      ((q.ruleFor style t).written h ((q.ruleFor style t).body t) ++
        (q.ruleFor style t).body t)) (Text.dominantBreak t).text) := by
    rw [q.run_eq, hplan, Plan.result, List.append_assoc]
  refine ⟨_, hinsert, fun hsame => ?_⟩
  rw [Request.removal_run (q := q) hsame hw hfound, hsource]

/-- A request for a license line in a script. -/
def Request.scriptLicense : Request :=
  ⟨some ["# License: MIT".toList], [], ["license".toList]⟩

/-- The license line goes below the first line of a script, and comes off again. -/
theorem removal_undoes_insertion_in_script :
    let style := Language.BuiltIn.python.style
    let q := Request.scriptLicense
    let h := "# License: MIT".toList
    let t := "#!/usr/bin/env python\nimport os\n".toList
    style.MarkersInLine ∧ (q.ruleFor style t).header = some h ∧ h ≠ [] ∧
      style.isHeader h = true ∧ style.header ((q.ruleFor style t).body t) = [] ∧
      Text.endsLine ((q.ruleFor style t).above t) = true ∧
      (∃ x, (style.blocks h).getLast? = some x ∧ (q.ruleFor style t).hasKeyword x = true) ∧
      ∃ u, (q.toRemoval.ruleFor style u).above u = (q.ruleFor style t).above t ∧
        q.run style t = (.ok .insert, .holding u (Text.dominantBreak t).text) ∧
        q.toRemoval.run style u = (.ok .remove, .holding t (Text.dominantBreak u).text) := by
  intro style q h t
  have hst : style.MarkersInLine := markersInLine_of_mem_builtIn _ (by simp [Language.BuiltIn.all])
  have hh : (q.ruleFor style t).header = some h := by decide +kernel
  have hvalid : style.isHeader h = true := by decide +kernel
  have hbody : style.header ((q.ruleFor style t).body t) = [] := by decide +kernel
  have hends : Text.endsLine ((q.ruleFor style t).above t) = true := by decide +kernel
  have hlast : (style.blocks h).getLast? = some h ∧ (q.ruleFor style t).hasKeyword h = true := by
    decide +kernel
  have hinsert : (q.run style t).2.text =
      "#!/usr/bin/env python\n# License: MIT\nimport os\n".toList := by decide +kernel
  have hsame : (q.toRemoval.ruleFor style (q.run style t).2.text).above (q.run style t).2.text =
      (q.ruleFor style t).above t := by
    rw [hinsert]
    decide +kernel
  obtain ⟨u, hrun, hundo⟩ := removal_undoes_insertion hst hh (by decide) hvalid hbody
    (Or.inr hends) (Or.inr ⟨h, hlast⟩)
  rw [hrun] at hsame
  exact ⟨hst, hh, by decide, hvalid, hbody, hends, ⟨h, hlast⟩, u, hsame, hrun, hundo hsame⟩

/-! ## Over a comment without a keyword -/

/-- A request with keywords on a document that begins with a comment without one, in its first
line, inserts the header above. To take the header off gives the document back exactly when what
was written ends with a blank line; otherwise the first block of the comment goes with it. There
is a blank line where the document is seen to start with a comment and the header does not end
with a blank line by itself. -/
theorem removal_over_comment {style : Comment.Style} {q : Request} {h t x : Text}
    (hskip : style.skip = none) (hst : style.MarkersInLine)
    (hk : ∃ k ∈ q.keywords, Text.allBlank k = false)
    (hh : (q.ruleFor style t).header = some h) (hvalid : style.isHeader h = true)
    (hlast : (style.blocks h).getLast? = some x) (hx : (q.ruleFor style t).hasKeyword x = true)
    (hfirst : Text.startsBlank t = false) (hheader : style.header t ≠ [])
    (hnone : ∀ y ∈ style.blocks t, (q.ruleFor style t).hasKeyword y = false)
    (hbegins : ¬ h <+: t) :
    ∃ w, q.run style t = (.ok .insert, .holding (w ++ t) (Text.dominantBreak t).text) ∧
      (style.partsBelow w = true → q.toRemoval.run style (w ++ t) =
        (.ok .remove, .holding t (Text.dominantBreak (w ++ t)).text)) ∧
      (style.partsBelow w = false → ∃ y s, t = y ++ s ∧ (style.blocks t).head? = some y ∧
        (∃ c ∈ y, isBlank c = false) ∧ q.toRemoval.run style (w ++ t) =
          (.ok .remove, .holding s (Text.dominantBreak (w ++ t)).text)) ∧
      (style.startsWithComment t = true → (q.ruleFor style t).endsWithBlankLine h = false →
        style.partsBelow w = true) := by
  have hk' := normalKeywords_ne_nil hk
  obtain ⟨first, hblocks⟩ := List.getLast?_eq_some_iff.1 hlast
  have hne : h ≠ [] := by
    rintro rfl
    rw [Style.blocks_eq_nil (List.prefix_nil.1 (style.header_prefix []))] at hlast
    cases hlast
  have hw := (q.ruleFor style t).written_ne_nil hne t
  have habove : ∀ s, (q.ruleFor style t).above s = [] := fun s =>
    HeaderRule.above_eq_nil s hskip
  have hbody : (q.ruleFor style t).body t = t := HeaderRule.body_eq t hskip
  have hmissing : (q.ruleFor style t).beginsWithHeader t = false := by
    rw [Bool.eq_false_iff]
    exact fun hs => hbegins (HeaderRule.prefix_of_beginsWithHeader hh hs)
  have hplan := (q.ruleFor style t).plan_of_insertion t hh hne (by
    rw [hbody]
    exact HeaderRule.existing_of_no_keyword hk' hnone hmissing)
  rw [habove, hbody, HeaderRule.parted, if_pos (Or.inl rfl), List.nil_append] at hplan
  refine ⟨(q.ruleFor style t).written h t, ?_, fun hparts => ?_, fun hparts => ?_,
    fun hs he => ?_⟩
  · rw [q.run_eq, hplan, Plan.result, List.nil_append]
  · have hfound := HeaderRule.existing_removal hst rfl hvalid hblocks hk' hx hfirst hnone
      (Or.inr hparts)
    simpa only [List.nil_append] using Request.removal_run (a := []) (habove _) hw hfound
  · obtain ⟨y, s, ht, hy, hsolid, hfound⟩ := HeaderRule.existing_removal_of_not_parted hst rfl
      hvalid hblocks hk' hx hfirst hnone hheader hparts
    have hall : (q.ruleFor style t).written h t ++ t =
        (q.ruleFor style t).written h t ++ y ++ s := by
      rw [List.append_assoc, ← ht]
    rw [hall] at hfound
    refine ⟨y, s, ht, hy, hsolid, ?_⟩
    rw [hall]
    simpa only [List.nil_append] using Request.removal_run (a := []) (habove _)
      (List.append_ne_nil_of_left_ne_nil hw y) hfound
  · rw [HeaderRule.written_eq, HeaderRule.blankLine_of_comment he hs]
    exact Style.partsBelow_append_lines hst hvalid _

/-- A comment at the start of its line survives the license line. -/
theorem removal_over_comment_in_class :
    let style := Language.BuiltIn.csharp.style
    let q := Request.license
    let h := "// License: MIT".toList
    let t := "// about A\nclass A {}\n".toList
    style.skip = none ∧ style.MarkersInLine ∧ (∃ k ∈ q.keywords, Text.allBlank k = false) ∧
      (q.ruleFor style t).header = some h ∧ style.isHeader h = true ∧
      (style.blocks h).getLast? = some h ∧ (q.ruleFor style t).hasKeyword h = true ∧
      Text.startsBlank t = false ∧ style.header t ≠ [] ∧
      (∀ y ∈ style.blocks t, (q.ruleFor style t).hasKeyword y = false) ∧ ¬ h <+: t ∧
      ∃ w, q.run style t = (.ok .insert, .holding (w ++ t) (Text.dominantBreak t).text) ∧
        q.toRemoval.run style (w ++ t) =
          (.ok .remove, .holding t (Text.dominantBreak (w ++ t)).text) := by
  intro style q h t
  have hst : style.MarkersInLine := markersInLine_of_mem_builtIn _ List.mem_cons_self
  have hk : ∃ k ∈ q.keywords, Text.allBlank k = false := ⟨_, List.mem_cons_self, by decide⟩
  have hh : (q.ruleFor style t).header = some h := by decide +kernel
  have hvalid : style.isHeader h = true := by decide +kernel
  have hlast : (style.blocks h).getLast? = some h := by decide +kernel
  have hx : (q.ruleFor style t).hasKeyword h = true := by decide +kernel
  have hfirst : Text.startsBlank t = false := by decide +kernel
  have hheader : style.header t ≠ [] := by decide +kernel
  have hnone : ∀ y ∈ style.blocks t, (q.ruleFor style t).hasKeyword y = false := by
    decide +kernel
  have hbegins : ¬ h <+: t := by decide +kernel
  have hseen : style.startsWithComment t = true ∧
      (q.ruleFor style t).endsWithBlankLine h = false := by decide +kernel
  obtain ⟨w, hrun, hback, -, hparts⟩ := removal_over_comment rfl hst hk hh hvalid hlast hx hfirst
    hheader hnone hbegins
  exact ⟨rfl, hst, hk, hh, hvalid, hlast, hx, hfirst, hheader, hnone, hbegins, w, hrun,
    hback (hparts hseen.1 hseen.2)⟩

/-- A comment behind a no-break space does not survive: no blank line is written above it, so to
take the license line off deletes it. -/
theorem removal_over_comment_behind_space :
    let style := Language.BuiltIn.csharp.style
    let q := Request.license
    let h := "// License: MIT".toList
    let t := "\u00a0// about A\nclass A {}\n".toList
    let u := "// License: MIT\n\u00a0// about A\nclass A {}\n".toList
    style.skip = none ∧ style.MarkersInLine ∧ q.keywords = ["license".toList] ∧
      (q.ruleFor style t).header = some h ∧ style.isHeader h = true ∧
      (style.blocks h).getLast? = some h ∧ (q.ruleFor style t).hasKeyword h = true ∧
      Text.startsBlank t = false ∧ style.header t ≠ [] ∧
      (∀ y ∈ style.blocks t, (q.ruleFor style t).hasKeyword y = false) ∧ ¬ h <+: t ∧
      q.run style t = (.ok .insert, .holding u (Text.dominantBreak t).text) ∧
      q.toRemoval.run style u =
        (.ok .remove, .holding "class A {}\n".toList (Text.dominantBreak u).text) := by
  decide +kernel

end Letterhead

import Letterhead.Proofs.Comment.Boundary
import Letterhead.Proofs.Header.Repetition

/-
  What the removal of a header with keywords leaves. The blocks through the last one that holds a
  keyword go, and the blocks behind it stay with the text below them (`exists_cut_of_removal`). They
  are the blocks of what is left, so a second removal finds nothing, and with more keywords no less
  is removed (`removal_keeps_later_blocks`).
-/

namespace Letterhead

open Letterhead.Comment

/-! ## Keywords -/

/-- A text holds a keyword of a list: an entry that is not blank, without the blank space around
it, occurs in the text, whatever the case of the letters. -/
def HoldsKeyword (ks : List Text) (s : Text) : Prop :=
  ∃ k ∈ ks, Text.allBlank k = false ∧ Text.lower (Text.trim k) <:+: Text.lower s

theorem HoldsKeyword.mono {ks ks' : List Text} {s : Text} (h : ks ⊆ ks')
    (hs : HoldsKeyword ks s) : HoldsKeyword ks' s :=
  let ⟨k, hk, hpart⟩ := hs
  ⟨k, h hk, hpart⟩

theorem mem_normalKeywords_iff {ks : List Text} {x : Text} :
    x ∈ normalKeywords ks ↔ ∃ k ∈ ks, Text.allBlank k = false ∧ Text.lower (Text.trim k) = x := by
  simp [normalKeywords, and_assoc]

/-- A rule whose keywords are those of a list finds them where the text holds one. -/
theorem HeaderRule.hasKeyword_iff {r : HeaderRule} {ks : List Text}
    (hkeywords : r.keywords = normalKeywords ks) {s : Text} :
    r.hasKeyword s = true ↔ HoldsKeyword ks s := by
  rw [HeaderRule.hasKeyword, hkeywords, List.any_eq_true]
  constructor
  · rintro ⟨x, hx, hpart⟩
    obtain ⟨k, hk, hblank, rfl⟩ := mem_normalKeywords_iff.1 hx
    exact ⟨k, hk, hblank, Text.hasPart_iff.1 hpart⟩
  · rintro ⟨k, hk, hblank, hpart⟩
    exact ⟨_, mem_normalKeywords_iff.2 ⟨k, hk, hblank, rfl⟩, Text.hasPart_iff.2 hpart⟩

theorem Request.hasKeyword_iff {q : Request} {style : Style} {m s : Text} :
    (q.rule style m).hasKeyword s = true ↔ HoldsKeyword q.keywords s :=
  HeaderRule.hasKeyword_iff rfl

/-! ## Counting blocks -/

/-- The last of the counted entries satisfies the test. -/
theorem test_of_getLast?_take {α : Type} {test : α → Bool} {xs : List α} {x : α}
    (h : (xs.take (countThroughLast test xs)).getLast? = some x) : test x = true := by
  obtain ⟨first, hfirst⟩ := List.getLast?_eq_some_iff.1 h
  have hxs := List.take_append_drop (countThroughLast test xs) xs
  have hlen := congrArg List.length hfirst
  rw [List.length_take, List.length_append, List.length_singleton] at hlen
  rw [hfirst, List.append_assoc, List.singleton_append] at hxs
  by_contra hx
  -- Otherwise one entry less would be counted.
  have hdrop : xs.drop first.length = x :: xs.drop (countThroughLast test xs) := by
    conv => lhs; rw [← hxs]
    exact List.drop_left
  have hless : countThroughLast test xs ≤ first.length := by
    rw [countThroughLast_le_iff, hdrop, List.forall_mem_cons]
    exact ⟨Bool.eq_false_iff.2 hx, countThroughLast_le_iff.1 (Nat.le_refl _)⟩
  omega

theorem countThroughLast_mono {α : Type} {test test' : α → Bool}
    (h : ∀ x, test x = true → test' x = true) (xs : List α) :
    countThroughLast test xs ≤ countThroughLast test' xs := by
  refine countThroughLast_le_iff.2 fun x hx => ?_
  have hx' := countThroughLast_le_iff.1 (Nat.le_refl (countThroughLast test' xs)) x hx
  exact Bool.eq_false_iff.2 fun htest => Bool.eq_false_iff.1 hx' (h x htest)

namespace HeaderRule

variable {r r' : HeaderRule}

/-! ## What a removal leaves -/

theorem ownBlocks_of_removal (hh : r.header = none) (s : Text) (bs : List Text) :
    r.ownBlocks s bs = countThroughLast r.hasKeyword bs := by
  have hbegins : r.beginsWithHeader s = false := by rw [beginsWithHeader, hh]
  rw [ownBlocks, hbegins, if_neg Bool.false_ne_true, Nat.max_zero]

/-- The blocks that are not part of the header are left, and the text below them. -/
theorem rest_eq_blocks (hk : r.keywords ≠ []) (s : Text) :
    r.rest s = ((r.style.blocks s).drop (r.ownBlocks s (r.style.blocks s))).flatten ++
      r.style.below s := by
  rw [← r.blocks_rest s hk, Style.blocks_flatten, ← r.below_rest s, Style.header_append_below]

/-- A removal cuts the blocks behind the last one that holds a keyword. -/
theorem exists_cut_of_removal (hk : r.keywords ≠ []) (hh : r.header = none) (s : Text) :
    ∃ gone kept, r.style.blocks s = gone ++ kept ∧
      (∀ x, gone.getLast? = some x → r.hasKeyword x = true) ∧
      (∀ x ∈ kept, r.hasKeyword x = false) ∧ (r.existing s = [] ↔ gone = []) ∧
      r.rest s = kept.flatten ++ r.style.below s ∧ r.style.blocks (r.rest s) = kept := by
  have hown := ownBlocks_of_removal hh s (r.style.blocks s)
  have hrest := r.rest_eq_blocks hk s
  have hblocks := r.blocks_rest s hk
  rw [hown] at hrest hblocks
  refine ⟨_, _, (List.take_append_drop _ _).symm, fun x => test_of_getLast?_take,
    countThroughLast_le_iff.1 (Nat.le_refl _), ?_, hrest, hblocks⟩
  rw [existing, if_neg hk]
  dsimp only
  rw [hown, List.flatten_eq_nil_iff, List.eq_nil_iff_forall_not_mem]
  exact forall₂_congr fun x hx =>
    iff_of_false (r.style.blocks_ne_nil s x (List.mem_of_mem_take hx)) not_false

/-- A removal with more keywords leaves no more. -/
theorem rest_suffix_of_removal (hk : r.keywords ≠ []) (hk' : r'.keywords ≠ [])
    (hh : r.header = none) (hh' : r'.header = none) (hstyle : r'.style = r.style)
    (hmore : ∀ x, r.hasKeyword x = true → r'.hasKeyword x = true) (s : Text) :
    r'.rest s <:+ r.rest s := by
  rw [rest_eq_blocks hk, rest_eq_blocks hk', hstyle, ownBlocks_of_removal hh,
    ownBlocks_of_removal hh']
  obtain ⟨n, hn⟩ := Nat.exists_eq_add_of_le (countThroughLast_mono hmore (r.style.blocks s))
  rw [hn, ← List.drop_drop]
  generalize (r.style.blocks s).drop (countThroughLast r.hasKeyword (r.style.blocks s)) = kept
  refine ⟨(kept.take n).flatten, ?_⟩
  rw [← List.append_assoc, ← List.flatten_append, List.take_append_drop]

end HeaderRule

/-! ## Requests -/

/-- The request to take a header off that holds one of some keywords. -/
def Request.removing (ks : List Text) : Request := ⟨none, [], ks⟩

/-- A removal with keywords deletes the blocks through the last one that holds a keyword, and
nothing when there is none. What is left has the other blocks, of which none holds a keyword, as
its own, so a second removal does nothing. A removal with more keywords leaves no more. -/
theorem removal_keeps_later_blocks {style : Comment.Style} {ks : List Text}
    (hskip : style.skip = none) (hk : ∃ k ∈ ks, Text.allBlank k = false) (t m : Text) :
    ∃ gone kept : List Text, style.blocks t = gone ++ kept ∧
      (∀ x, gone.getLast? = some x → HoldsKeyword ks x) ∧ (∀ x ∈ kept, ¬ HoldsKeyword ks x) ∧
      ((Request.removing ks).rule style m).enforce (.holding t m) =
        (.ok (if gone = [] then .none else .remove),
          .holding (kept.flatten ++ style.below t) m) ∧
      style.blocks (kept.flatten ++ style.below t) = kept ∧
      ((Request.removing ks).rule style m).enforce
          (.holding (kept.flatten ++ style.below t) m) =
        (.ok .none, .holding (kept.flatten ++ style.below t) m) ∧
      ∀ ks', ks ⊆ ks' → ∃ a s,
        ((Request.removing ks').rule style m).enforce (.holding t m) = (.ok a, .holding s m) ∧
          s <:+ kept.flatten ++ style.below t := by
  have hkey : ∀ (ks' : List Text) {x : Text},
      ((Request.removing ks').rule style m).hasKeyword x = true ↔ HoldsKeyword ks' x :=
    fun _ _ => Request.hasKeyword_iff
  have hrun : ∀ (ks' : List Text) (s : Text),
      ((Request.removing ks').rule style m).enforce (.holding s m) =
        (.ok (if ((Request.removing ks').rule style m).existing s = [] then .none else .remove),
          .holding (((Request.removing ks').rule style m).rest s) m) := fun ks' s => by
    rw [HeaderRule.enforce_holding _ s m (Or.inl rfl), HeaderRule.result_remove s hskip rfl,
      HeaderRule.plan_remove s hskip rfl, apply_ite Plan.action]
  have hks : ((Request.removing ks).rule style m).keywords ≠ [] := normalKeywords_ne_nil hk
  have hnone := HeaderRule.not_hasKeyword_rest hks t
  obtain ⟨gone, kept, hblocks, hlast, hkept, hnil, hrest, hagain⟩ :=
    HeaderRule.exists_cut_of_removal hks rfl t
  have hleft : ((Request.removing ks).rule style m).rest t = kept.flatten ++ style.below t := hrest
  rw [hleft] at hagain hnone
  refine ⟨gone, kept, hblocks, fun x hx => (hkey ks).1 (hlast x hx), fun x hx hholds => ?_, ?_,
    hagain, ?_, fun ks' hsub => ⟨_, _, hrun ks' t, ?_⟩⟩
  · exact Bool.false_ne_true ((hkept x hx).symm.trans ((hkey ks).2 hholds))
  · rw [hrun, hleft, if_congr hnil rfl rfl]
  · rw [HeaderRule.enforce_eq_none_iff _ _ m (Or.inl rfl)]
    exact HeaderRule.action_eq_none_of_remove _ hskip rfl
      (HeaderRule.existing_of_no_keyword hks hnone rfl)
  · obtain ⟨k, hmem, hblank⟩ := hk
    have hks' : ((Request.removing ks').rule style m).keywords ≠ [] :=
      normalKeywords_ne_nil ⟨k, hsub hmem, hblank⟩
    rw [← hleft]
    exact HeaderRule.rest_suffix_of_removal hks hks' rfl rfl rfl
      (fun x hx => (hkey ks').2 (((hkey ks).1 hx).mono hsub)) t

/-- Of three blocks the first two go, since the second one is the last that holds the keyword, and
the third one stays, unless it holds a keyword that is added. -/
theorem removal_keeps_later_blocks_of_class :
    let style := Language.BuiltIn.csharp.style
    let t := "// a\n\n// LICENSE: MIT\n\n// About A\nclass A {}\n".toList
    let s := "// About A\nclass A {}\n".toList
    let ks := [" License ".toList, []]
    style.skip = none ∧ (∃ k ∈ ks, Text.allBlank k = false) ∧
      ((Request.removing ks).rule style []).enforce (.holding t []) = (.ok .remove, .holding s []) ∧
      (∃ gone, style.blocks t = gone ++ style.blocks s) ∧
      (∀ x ∈ style.blocks s, ¬ HoldsKeyword ks x) ∧
      ((Request.removing ks).rule style []).enforce (.holding s []) = (.ok .none, .holding s []) ∧
      ∃ a s', ((Request.removing (ks ++ ["about".toList])).rule style []).enforce (.holding t []) =
        (.ok a, .holding s' []) ∧ s' <:+ s := by
  intro style t s ks
  have hk : ∃ k ∈ ks, Text.allBlank k = false := ⟨_, List.mem_cons_self, by decide⟩
  have hrun : ((Request.removing ks).rule style []).enforce (.holding t []) =
      (.ok .remove, .holding s []) := by decide +kernel
  obtain ⟨gone, kept, hblocks, -, hkept, hgeneral, hagain, hidle, hmore⟩ :=
    @removal_keeps_later_blocks style ks rfl hk t []
  have hleft : s = kept.flatten ++ style.below t :=
    congrArg (·.2.text) (hrun.symm.trans hgeneral)
  rw [← hleft] at hagain hidle hmore
  rw [hagain]
  exact ⟨rfl, hk, hrun, ⟨gone, hblocks⟩, hkept, hidle, hmore _ (List.subset_append_left _ _)⟩

end Letterhead

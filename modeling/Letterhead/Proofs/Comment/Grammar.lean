import Letterhead.Proofs.Comment.Below
import Letterhead.Proofs.Text.Lower
import Mathlib.Order.Bounds.Defs

/-
  The rules for comment runs, as a grammar. `Style.Lexes` has one rule for each kind of token, and
  `Style.Halts` one for each reason to stop; their conditions speak of the text alone: the marker
  that wins where several match (`Style.Wins`), the rest of a line (`RestOfLine`), the nearest
  closing delimiter (`Nearest`). `Style.Scans` chains them. Each text has exactly one run by these
  rules, and the header ends where the last token of that run ends behind which no region is open
  (`Style.header_scanned`).
-/

namespace Letterhead

/-! ## Cuts, said without a search -/

theorem LineBreak.take?_eq_iff {b : LineBreak} {r : Text} :
    take? (b.text ++ r) = some (b, r) ↔ (b = .cr → r.head? ≠ some '\n') := by
  constructor
  · intro h hb
    exact (cr_lf_apart h).resolve_left (not_not_intro hb)
  · intro h
    exact take?_text_append (not_or_of_imp h)

namespace Text

variable {c s y r : Text}

/-- The text `y` is the rest of a line, through its line break, and `r` follows. -/
inductive RestOfLine : Text → Text → Prop
  | last {y : Text} (hy : Unbroken y) : RestOfLine y []
  | broken {y r : Text} {b : LineBreak} (hy : Unbroken y)
      (hb : b = .cr → r.head? ≠ some '\n') : RestOfLine (y ++ b.text) r

/-- The first `c` in `y ++ c ++ r` is the one behind `y`. -/
def Nearest (c y r : Text) : Prop :=
  ∀ y' r' : Text, y ++ (c ++ r) = y' ++ (c ++ r') → y.length ≤ y'.length

theorem cutLine_eq_iff : cutLine (y ++ r) = (y, r) ↔ RestOfLine y r := by
  constructor
  · intro h
    rcases cutLine_cases (y ++ r) with ⟨hu, hc⟩ | ⟨w, b, r', hw, -, hb, hc⟩
    · rw [h, Prod.mk.injEq] at hc
      obtain ⟨-, rfl⟩ := hc
      rw [List.append_nil] at hu
      exact .last hu
    · rw [h, Prod.mk.injEq] at hc
      obtain ⟨rfl, rfl⟩ := hc
      exact .broken hw (LineBreak.take?_eq_iff.1 hb)
  · intro h
    cases h with
    | last hy =>
      rw [List.append_nil]
      exact cutLine_unbroken hy
    | broken hy hb =>
      rw [List.append_assoc]
      exact cutLine_of_take? hy (LineBreak.take?_eq_iff.2 hb)

theorem cutAt?_eq_none_iff : cutAt? c s = none ↔ ¬ c <:+: s := by
  rw [← hasPart_iff, hasPart, Bool.not_eq_true, Option.isSome_eq_false_iff,
    Option.isNone_iff_eq_none]

theorem length_le_of_cutAt? {y' r' : Text} (h : cutAt? c s = some (y, r))
    (hs : s = y' ++ (c ++ r')) : y.length ≤ y'.length := by
  induction s generalizing y y' r with
  | nil =>
    unfold cutAt? at h
    split at h
    · simp only [Option.some.injEq, Prod.mk.injEq] at h
      simp [← h.1]
    · cases h
  | cons x s ih =>
    unfold cutAt? at h
    split at h
    · simp only [Option.some.injEq, Prod.mk.injEq] at h
      simp [← h.1]
    next hnone =>
      obtain ⟨⟨y₁, r₁⟩, h₁, he⟩ := Option.map_eq_some_iff.1 h
      simp only [Prod.mk.injEq] at he
      cases y' with
      | nil =>
        rw [List.nil_append] at hs
        rw [hs, after?_append] at hnone
        cases hnone
      | cons x' y' =>
        rw [List.cons_append, List.cons.injEq] at hs
        have := ih h₁ hs.2
        rw [← he.1, List.length_cons, List.length_cons]
        omega

theorem cutAt?_eq_iff : cutAt? c (y ++ (c ++ r)) = some (y, r) ↔ Nearest c y r := by
  constructor
  · intro h y' r' hs
    exact length_le_of_cutAt? h hs
  · intro h
    cases hc : cutAt? c (y ++ (c ++ r)) with
    | none => exact absurd ⟨y, r, List.append_assoc y c r⟩ (cutAt?_eq_none_iff.1 hc)
    | some p =>
      obtain ⟨y₀, r₀⟩ := p
      have hs := eq_of_cutAt? hc
      rw [List.append_assoc] at hs
      have hlen : y.length = y₀.length :=
        Nat.le_antisymm (h y₀ r₀ hs) (length_le_of_cutAt? hc rfl)
      obtain ⟨rfl, htail⟩ := List.append_inj hs hlen
      rw [List.append_cancel_left htail]

end Text

/-! ## The marker that wins -/

/-- Where entries stand in the order of a rank, the first largest one is the largest, and of
equally large ones the one of least rank. -/
theorem firstLargest?_eq_some_iff {α : Type} {size rank : α → Nat} {xs : List α} {x : α}
    (h : xs.Pairwise fun a b => rank a < rank b) :
    firstLargest? size xs = some x ↔
      x ∈ xs ∧ ∀ y ∈ xs, size y < size x ∨ size y = size x ∧ rank x ≤ rank y := by
  induction xs generalizing x with
  | nil => simp [firstLargest?]
  | cons a xs ih =>
    obtain ⟨ha, hxs⟩ := List.pairwise_cons.1 h
    rw [firstLargest?]
    cases hy : firstLargest? size xs with
    | none =>
      rw [firstLargest?_eq_none_iff] at hy
      subst hy
      simp only [Option.some.injEq, List.mem_singleton, forall_eq]
      exact ⟨fun hx => ⟨hx.symm, by simp [hx]⟩, fun hx => hx.1.symm⟩
    | some y =>
      obtain ⟨hmem, hmax⟩ := (ih hxs).1 hy
      have hay := ha y hmem
      dsimp only
      split
      next hlt =>
        rw [Option.some.injEq]
        constructor
        · rintro rfl
          refine ⟨List.mem_cons_of_mem a hmem, fun z hz => ?_⟩
          rcases List.mem_cons.1 hz with rfl | hz
          · exact Or.inl hlt
          · exact hmax z hz
        · rintro ⟨hx, hxmax⟩
          rcases List.mem_cons.1 hx with rfl | hx
          · have := hxmax y (List.mem_cons_of_mem x hmem)
            omega
          · have := (ih hxs).2 ⟨hx, fun z hz => hxmax z (List.mem_cons_of_mem a hz)⟩
            exact Option.some.inj (hy.symm.trans this)
      next hle =>
        rw [Option.some.injEq]
        constructor
        · rintro rfl
          refine ⟨List.mem_cons_self, fun z hz => ?_⟩
          rcases List.mem_cons.1 hz with rfl | hz
          · exact Or.inr ⟨rfl, Nat.le_refl _⟩
          · have := hmax z hz
            have := ha z hz
            omega
        · rintro ⟨hx, hxmax⟩
          rcases List.mem_cons.1 hx with rfl | hx
          · rfl
          · have := hxmax a List.mem_cons_self
            have := hmax x hx
            have := ha x hx
            omega

namespace Comment

/-- The place of an opening among those of markers that are equally long. -/
def Opening.rank : Opening → Nat
  | regionEnd => 0
  | regionStart => 1
  | block _ => 2
  | line => 3

namespace Style

variable {st : Style} {depth : Nat} {s r m : Text} {o : Opening} {t : Token} {ts : List Token}
  {why : Stop}

/-- A marker of a style, with what it opens. -/
inductive HasMarker (st : Style) : Text → Opening → Prop
  | regionEnd {d : Delimiters} (hd : st.region = some d) : HasMarker st d.closing .regionEnd
  | regionStart {d : Delimiters} (hd : st.region = some d) : HasMarker st d.opening .regionStart
  | block {d : Delimiters} (hd : st.block = some d) : HasMarker st d.opening (.block d.closing)
  | line {k : Marker} (hk : st.line = some k) : HasMarker st k.text .line

/-- Of the markers that a text begins with, `m` is the longest, and of the longest ones that of
least rank. -/
structure Wins (st : Style) (s m : Text) (o : Opening) : Prop where
  marker : st.HasMarker m o
  leads : m <+: s
  longest : ∀ m' o', st.HasMarker m' o' → m' <+: s →
    m'.length < m.length ∨ m'.length = m.length ∧ o.rank ≤ o'.rank

theorem mem_openings_iff : (m, o) ∈ st.openings ↔ st.HasMarker m o := by
  simp only [openings, List.mem_append, Option.mem_toList, Option.map_eq_some_iff,
    Prod.mk.injEq]
  constructor
  · rintro (((⟨d, hd, rfl, rfl⟩ | ⟨d, hd, rfl, rfl⟩) | ⟨d, hd, rfl, rfl⟩) | ⟨k, hk, rfl, rfl⟩)
    · exact .regionEnd hd
    · exact .regionStart hd
    · exact .block hd
    · exact .line hk
  · rintro (hd | hd | hd | hk)
    · exact Or.inl (Or.inl (Or.inl ⟨_, hd, rfl, rfl⟩))
    · exact Or.inl (Or.inl (Or.inr ⟨_, hd, rfl, rfl⟩))
    · exact Or.inl (Or.inr ⟨_, hd, rfl, rfl⟩)
    · exact Or.inr ⟨_, hk, rfl, rfl⟩

theorem openings_pairwise (st : Style) :
    st.openings.Pairwise fun a b => a.2.rank < b.2.rank := by
  unfold openings
  cases st.region <;> cases st.block <;> cases st.line <;> simp [Opening.rank]

theorem mem_matching_iff :
    (m, o) ∈ st.openings.filter (fun p => Text.beginsWith p.1 s) ↔
      st.HasMarker m o ∧ m <+: s := by
  rw [List.mem_filter, mem_openings_iff, Text.beginsWith_iff]

theorem opening?_eq_some_iff : st.opening? s = some (m, o) ↔ st.Wins s m o := by
  have hrank := st.openings_pairwise.filter fun p => Text.beginsWith p.1 s
  rw [opening?, firstLargest?_eq_some_iff hrank, mem_matching_iff]
  constructor
  · rintro ⟨⟨hm, hs⟩, hmax⟩
    exact ⟨hm, hs, fun m' o' hm' hs' => hmax (m', o') (mem_matching_iff.2 ⟨hm', hs'⟩)⟩
  · rintro ⟨hm, hs, hmax⟩
    refine ⟨⟨hm, hs⟩, fun p hp => ?_⟩
    obtain ⟨hm', hs'⟩ := mem_matching_iff.1 hp
    exact hmax p.1 p.2 hm' hs'

theorem opening?_eq_none_iff :
    st.opening? s = none ↔ ∀ m o, st.HasMarker m o → ¬ m <+: s := by
  rw [opening?, firstLargest?_eq_none_iff, List.eq_nil_iff_forall_not_mem]
  constructor
  · intro h m o hm hs
    exact h (m, o) (mem_matching_iff.2 ⟨hm, hs⟩)
  · intro h p hp
    obtain ⟨hm, hs⟩ := mem_matching_iff.1 hp
    exact h p.1 p.2 hm hs

/-! ## Tokens and ends -/

/-- The first token of a text inside `depth` open regions, with what follows it. -/
inductive Lexes (st : Style) (depth : Nat) : Text → Token → Text → Prop
  | lineBreak {g r : Text} {b : LineBreak} (hg : Gap g) (hb : b = .cr → r.head? ≠ some '\n') :
      Lexes st depth (g ++ (b.text ++ r)) ⟨g, .lineBreak, b.text⟩ r
  | line {g m y r : Text} (hg : Gap g) (hm : BeginsSolid m) (hw : st.Wins (m ++ (y ++ r)) m .line)
      (hy : Text.RestOfLine y r) : Lexes st depth (g ++ (m ++ (y ++ r))) ⟨g, .line, m ++ y⟩ r
  | regionStart {g m y r : Text} (hg : Gap g) (hm : BeginsSolid m)
      (hw : st.Wins (m ++ (y ++ r)) m .regionStart) (hy : Text.RestOfLine y r) :
      Lexes st depth (g ++ (m ++ (y ++ r))) ⟨g, .regionStart, m ++ y⟩ r
  | regionEnd {g m y r : Text} (hg : Gap g) (hm : BeginsSolid m)
      (hw : st.Wins (m ++ (y ++ r)) m .regionEnd) (hd : depth ≠ 0) (hy : Text.RestOfLine y r) :
      Lexes st depth (g ++ (m ++ (y ++ r))) ⟨g, .regionEnd, m ++ y⟩ r
  | block {g m y c r : Text} (hg : Gap g) (hm : BeginsSolid m)
      (hw : st.Wins (m ++ (y ++ (c ++ r))) m (.block c)) (hc : Text.Nearest c y r) :
      Lexes st depth (g ++ (m ++ (y ++ (c ++ r)))) ⟨g, .block, m ++ y ++ c⟩ r

/-- Why a text inside `depth` open regions has no first token. -/
inductive Halts (st : Style) (depth : Nat) : Text → Stop → Prop
  | endOfText {g : Text} (hg : Gap g) : Halts st depth g .endOfText
  | otherText {g s : Text} (hg : Gap g) (hs : BeginsSolid s)
      (hno : ∀ m o, st.HasMarker m o → ¬ m <+: s) : Halts st depth (g ++ s) .otherText
  | strayRegionEnd {g m s : Text} (hg : Gap g) (hm : BeginsSolid m)
      (hw : st.Wins (m ++ s) m .regionEnd) (hd : depth = 0) :
      Halts st depth (g ++ (m ++ s)) .strayRegionEnd
  | unclosedBlock {g m c s : Text} (hg : Gap g) (hm : BeginsSolid m)
      (hw : st.Wins (m ++ s) m (.block c)) (hc : ¬ c <:+: s) :
      Halts st depth (g ++ (m ++ s)) .unclosedBlock

/-- The run of tokens of a text inside `depth` open regions, and why it stops. -/
inductive Scans (st : Style) : Nat → Text → List Token → Stop → Prop
  | stop {depth : Nat} {s : Text} {why : Stop} (h : Halts st depth s why) :
      Scans st depth s [] why
  | token {depth : Nat} {s r : Text} {t : Token} {ts : List Token} {why : Stop}
      (h : Lexes st depth s t r) (hr : Scans st (t.kind.depthAfter depth) r ts why) :
      Scans st depth s (t :: ts) why

/-! ## The rules and the steps -/

theorem Lexes.takes (h : st.Lexes depth s t r) : st.Takes depth s t r := by
  cases h with
  | lineBreak hg hb => exact .lineBreak hg (LineBreak.take?_eq_iff.2 hb)
  | line hg hm hw hy =>
    exact .line hg hm (opening?_eq_some_iff.2 hw) rfl (by simp) (Text.cutLine_eq_iff.2 hy)
  | regionStart hg hm hw hy =>
    exact .line hg hm (opening?_eq_some_iff.2 hw) rfl (by simp) (Text.cutLine_eq_iff.2 hy)
  | regionEnd hg hm hw hd hy =>
    exact .line hg hm (opening?_eq_some_iff.2 hw) rfl (fun _ => hd) (Text.cutLine_eq_iff.2 hy)
  | block hg hm hw hc =>
    exact .block hg hm (opening?_eq_some_iff.2 hw) (Text.cutAt?_eq_iff.2 hc)

theorem Lexes.kind_ne (h : st.Lexes depth s t r) : t.kind ≠ .space := by
  cases h <;> simp

/-- A step takes a token by the rules, or the blank space that is left at the end of the text. -/
theorem Takes.lexes_or_space (h : st.Takes depth s t r) :
    st.Lexes depth s t r ∨ Gap s ∧ t = ⟨[], .space, s⟩ ∧ r = [] := by
  cases h with
  | space hg hne => exact Or.inr ⟨hg, rfl, rfl⟩
  | lineBreak hg hb => exact Or.inl (.lineBreak hg (LineBreak.take?_eq_iff.1 hb))
  | @line g m y r o kind hg hm ho hk hd hy =>
    have hw := opening?_eq_some_iff.1 ho
    have hy' := Text.cutLine_eq_iff.1 hy
    cases o with
    | line =>
      obtain rfl : Kind.line = kind := by simpa [Opening.lineKind?] using hk
      exact Or.inl (.line hg hm hw hy')
    | regionStart =>
      obtain rfl : Kind.regionStart = kind := by simpa [Opening.lineKind?] using hk
      exact Or.inl (.regionStart hg hm hw hy')
    | regionEnd =>
      obtain rfl : Kind.regionEnd = kind := by simpa [Opening.lineKind?] using hk
      exact Or.inl (.regionEnd hg hm hw (hd rfl) hy')
    | block c => simp [Opening.lineKind?] at hk
  | block hg hm ho hy =>
    exact Or.inl (.block hg hm (opening?_eq_some_iff.1 ho) (Text.cutAt?_eq_iff.1 hy))

/-- Where a run stops by the rules there is no step, but for one over blank space at the end. -/
theorem Halts.next (h : st.Halts depth s why) :
    st.next depth s = .error why ∧ (why = .endOfText → s = []) ∨
      why = .endOfText ∧ st.next depth s = .ok (⟨[], .space, s⟩, []) := by
  cases h with
  | endOfText hg =>
    have h := @next_gap st depth [] _ hg (by simp)
    rw [List.append_nil, if_pos rfl] at h
    rw [h]
    split
    next hnil => exact Or.inl ⟨rfl, fun _ => hnil⟩
    next => exact Or.inr ⟨rfl, rfl⟩
  | otherText hg hs hno =>
    obtain ⟨c, s', rfl, hc⟩ := hs
    have hhead : ∀ c' s'', c :: s' = c' :: s'' → isGap c' = false := by
      intro c' s'' h
      rw [List.cons.injEq] at h
      exact h.1 ▸ isGap_of_isBlank hc
    rw [next_gap hg hhead, if_neg (List.cons_ne_nil c s'),
      LineBreak.take?_eq_none (isBreakChar_of_isBlank hc), opening?_eq_none_iff.2 hno]
    exact Or.inl ⟨rfl, by simp⟩
  | strayRegionEnd hg hm hw hd =>
    rw [next_solid hg hm (opening?_eq_some_iff.2 hw)]
    exact Or.inl ⟨if_pos hd, by simp⟩
  | unclosedBlock hg hm hw hc =>
    rw [next_solid hg hm (opening?_eq_some_iff.2 hw)]
    simp [construct, Text.cutAt?_eq_none_iff.2 hc]

theorem halts_of_construct {g : Text} (hg : Gap g) (hm : BeginsSolid m)
    (ho : st.opening? (m ++ s) = some (m, o)) (h : construct g depth m o s = .error why) :
    st.Halts depth (g ++ (m ++ s)) why := by
  have hw := opening?_eq_some_iff.1 ho
  cases o with
  | line => cases h
  | regionStart => cases h
  | regionEnd =>
    simp only [construct] at h
    split at h
    next hd =>
      obtain rfl := Except.error.inj h
      exact .strayRegionEnd hg hm hw hd
    · cases h
  | block c =>
    simp only [construct] at h
    split at h
    · cases h
    next hc =>
      obtain rfl := Except.error.inj h
      exact .unclosedBlock hg hm hw (Text.cutAt?_eq_none_iff.1 hc)

theorem halts_of_next (h : st.next depth s = .error why) : st.Halts depth s why := by
  obtain ⟨g, s', rfl, hg, hhead⟩ := exists_gap s
  rw [next_gap hg hhead] at h
  split at h
  next hs =>
    split at h
    · obtain rfl := Except.error.inj h
      rw [hs, List.append_nil]
      exact .endOfText hg
    · cases h
  next hs =>
    split at h
    · cases h
    next hb =>
      split at h
      next m o ho =>
        have he := (opening?_spec ho).2
        have hm := beginsSolid_of_opening? ho hhead hb
        rw [he] at ho ⊢
        exact halts_of_construct hg hm ho h
      next ho =>
        obtain rfl := Except.error.inj h
        refine .otherText hg ?_ (opening?_eq_none_iff.1 ho)
        obtain ⟨c, s'', rfl⟩ := List.exists_cons_of_ne_nil hs
        refine ⟨c, s'', rfl, isBlank_eq_false (hhead c s'' rfl) ?_⟩
        rw [Bool.eq_false_iff]
        intro hc
        obtain ⟨b, r, hb'⟩ := LineBreak.exists_take?_cons hc s''
        rw [hb] at hb'
        cases hb'

/-! ## The run of a text -/

/-- Each text has a run by the rules. -/
theorem exists_scans (st : Style) (depth : Nat) (s : Text) :
    ∃ ts why, st.Scans depth s ts why := by
  induction hn : s.length using Nat.strongRecOn generalizing s depth with
  | _ n ih =>
    subst hn
    cases h : st.next depth s with
    | error why => exact ⟨[], why, .stop (halts_of_next h)⟩
    | ok p =>
      obtain ⟨t, r⟩ := p
      rcases (next_eq_ok_iff.1 h).lexes_or_space with hlexes | ⟨hg, -, -⟩
      · obtain ⟨ts, why, hr⟩ := ih r.length (length_lt_of_next h) (t.kind.depthAfter depth) r rfl
        exact ⟨t :: ts, why, .token hlexes hr⟩
      · exact ⟨[], .endOfText, .stop (.endOfText hg)⟩

theorem Scans.kind_ne (h : st.Scans depth s ts why) : ∀ t ∈ ts, t.kind ≠ .space := by
  induction h with
  | stop => simp
  | token h _ ih =>
    intro t ht
    rcases List.mem_cons.1 ht with rfl | ht
    · exact h.kind_ne
    · exact ih t ht

/-- The run of a text has the tokens of the run by the rules, and blank space that is left at the
end of the text as one more token. -/
theorem Scans.run (h : st.Scans depth s ts why) :
    (st.run depth s).stop = why ∧ (why = .endOfText → (st.run depth s).rest = []) ∧
      ∃ us, (st.run depth s).tokens = ts ++ us ∧ (∀ t ∈ us, t.kind = .space) ∧
        (us ≠ [] → why = .endOfText) := by
  induction h with
  | stop h =>
    rcases h.next with ⟨hn, hrest⟩ | ⟨rfl, hn⟩
    · rw [run_of_error hn]
      exact ⟨rfl, hrest, [], rfl, by simp, by simp⟩
    · rw [run_of_ok hn, run_nil]
      exact ⟨rfl, fun _ => rfl, _, rfl, by simp, fun _ => rfl⟩
  | token h _ ih =>
    obtain ⟨hstop, hrest, us, hus, hspace, hend⟩ := ih
    rw [run_of_ok h.takes.next]
    exact ⟨hstop, hrest, us, by rw [hus]; rfl, hspace, hend⟩

/-- There is one run by the rules. -/
theorem Scans.unique {ts' : List Token} {why' : Stop} (h : st.Scans depth s ts why)
    (h' : st.Scans depth s ts' why') : ts' = ts ∧ why' = why := by
  have tokens_eq {us : List Token} {w : Stop} (hs : st.Scans depth s us w) :
      (st.run depth s).tokens.filter (fun t => t.kind != .space) = us := by
    obtain ⟨-, -, vs, hvs, hspace, -⟩ := hs.run
    have hus : us.filter (fun t => t.kind != .space) = us :=
      List.filter_eq_self.2 fun t ht => by simpa using hs.kind_ne t ht
    have hnil : vs.filter (fun t => t.kind != .space) = [] :=
      List.filter_eq_nil_iff.2 fun t ht => by simp [hspace t ht]
    rw [hvs, List.filter_append, hus, hnil, List.append_nil]
  exact ⟨(tokens_eq h').symm.trans (tokens_eq h), h'.run.1.symm.trans h.run.1⟩

end Style

/-! ## Where the header ends -/

variable {ts us : List Token}

/-- The places before and behind the tokens of a run at which no region is open. -/
def closedEnds (ts : List Token) : Set Nat :=
  {n | ∃ us, us <+: ts ∧ depthAfter 0 us = 0 ∧ n = (textOf us).length}

/-- Where the header of a text ends by the documented rule: at the end of the text when the run
takes all of it and leaves no region open, else behind the last token behind which none is open. -/
def HeaderEnd (s : Text) (ts : List Token) (why : Stop) (n : Nat) : Prop :=
  if why = .endOfText ∧ depthAfter 0 ts = 0 then n = s.length else IsGreatest (closedEnds ts) n

theorem isGreatest_settled (ts : List Token) :
    IsGreatest (closedEnds ts) (textOf (settled 0 ts)).length := by
  refine ⟨⟨settled 0 ts, settled_prefix 0 ts, depthAfter_settled ts, rfl⟩, ?_⟩
  rintro n ⟨us, ⟨vs, rfl⟩, hd, rfl⟩
  rw [settled_append hd, textOf_append, List.length_append]
  exact Nat.le_add_right _ _

theorem depthAfter_of_space (depth : Nat) (h : ∀ t ∈ us, t.kind = .space) :
    depthAfter depth us = depth := by
  induction us with
  | nil => rfl
  | cons t us ih =>
    rw [depthAfter_cons, h t List.mem_cons_self]
    exact ih fun t ht => h t (List.mem_cons_of_mem _ ht)

/-- Blank space behind tokens that leave a region open closes nothing. -/
theorem closedEnds_append_space (hd : depthAfter 0 ts ≠ 0) (h : ∀ t ∈ us, t.kind = .space) :
    closedEnds (ts ++ us) = closedEnds ts := by
  ext n
  constructor
  · rintro ⟨vs, ⟨ws, hws⟩, hzero, rfl⟩
    rcases List.append_eq_append_iff.1 hws with ⟨xs, hxs, -⟩ | ⟨xs, rfl, hxs⟩
    · exact ⟨vs, ⟨xs, hxs.symm⟩, hzero, rfl⟩
    · have hspace : ∀ t ∈ xs, t.kind = .space := fun t ht => h t (hxs ▸ List.mem_append_left ws ht)
      rw [depthAfter_append, depthAfter_of_space _ hspace] at hzero
      exact absurd hzero hd
  · rintro ⟨vs, hvs, hzero, rfl⟩
    exact ⟨vs, hvs.trans (List.prefix_append ts us), hzero, rfl⟩

namespace Style

variable {st : Style} {s : Text} {why : Stop}

theorem Scans.depthAfter_run (h : st.Scans 0 s ts why) :
    depthAfter 0 (st.run 0 s).tokens = depthAfter 0 ts := by
  obtain ⟨-, -, us, hus, hspace, -⟩ := h.run
  rw [hus, depthAfter_append, depthAfter_of_space _ hspace]

theorem Scans.headerEnd (h : st.Scans 0 s ts why) : HeaderEnd s ts why (st.header s).length := by
  obtain ⟨-, hrest, us, hus, hspace, hend⟩ := h.run
  have hdepth := h.depthAfter_run
  unfold HeaderEnd header headerTokens
  split
  next hall =>
    have hs := st.text_run_append_rest 0 s
    rw [hrest hall.1, List.append_nil] at hs
    have hsettled : settled 0 (st.run 0 s).tokens = (st.run 0 s).tokens := by
      have := settled_append (hdepth.trans hall.2) []
      simpa [settled] using this
    rw [hsettled, hs]
  next hopen =>
    have hgreatest := isGreatest_settled (st.run 0 s).tokens
    have hends : closedEnds (st.run 0 s).tokens = closedEnds ts := by
      rw [hus]
      by_cases hnil : us = []
      · rw [hnil, List.append_nil]
      · exact closedEnds_append_space (fun hd => hopen ⟨hend hnil, hd⟩) hspace
    rwa [hends] at hgreatest

theorem Scans.hasUnclosedBlock_iff (h : st.Scans 0 s ts why) :
    st.hasUnclosedBlock s = true ↔ why = .unclosedBlock := by
  rw [hasUnclosedBlock, h.run.1, beq_iff_eq]

theorem Scans.isBalanced_iff (h : st.Scans 0 s ts why) :
    st.isBalanced s = true ↔ why ≠ .unclosedBlock ∧ depthAfter 0 ts = 0 := by
  rw [isBalanced, Bool.and_eq_true, Bool.not_eq_true', beq_iff_eq, h.depthAfter_run, ne_eq,
    ← h.hasUnclosedBlock_iff, Bool.not_eq_true]

/-- The header, the balance and the open block of a text are those of its one run by the rules.
The header is the text up to where that run ends by the rule for headers. -/
theorem header_scanned (st : Style) (s : Text) :
    ∃ ts why, st.Scans 0 s ts why ∧
      (∀ ts' why', st.Scans 0 s ts' why' → ts' = ts ∧ why' = why) ∧
      st.header s <+: s ∧ HeaderEnd s ts why (st.header s).length ∧
      (st.isBalanced s = true ↔ why ≠ .unclosedBlock ∧ depthAfter 0 ts = 0) ∧
      (st.hasUnclosedBlock s = true ↔ why = .unclosedBlock) := by
  obtain ⟨ts, why, h⟩ := st.exists_scans 0 s
  exact ⟨ts, why, h, fun _ _ h' => h.unique h', st.header_prefix s, h.headerEnd,
    h.isBalanced_iff, h.hasUnclosedBlock_iff⟩

end Style
end Comment
end Letterhead

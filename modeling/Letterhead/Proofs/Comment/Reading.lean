import Letterhead.Comment.Header
import Letterhead.Proofs.Text.Cuts

/-
  Reading comment tokens from a text. `Style.Takes` says what the first token of a text can be,
  one rule for each kind (`next_eq_ok_iff`); `Style.Reads` chains such steps. A step sees nothing
  behind its token, so a reading stays one when the text behind it is shortened
  (`Reads.shorten`). Every reading goes the way of the run (`Reads.run_eq`).
-/

namespace Letterhead.Comment

/-! ## One token -/

/-- Blank space without line breaks. -/
def Gap (g : Text) : Prop := ∀ c ∈ g, isGap c = true

theorem gap_nil : Gap [] := by simp [Gap]

/-- A text whose first character is not blank. -/
def BeginsSolid (s : Text) : Prop := ∃ c r, s = c :: r ∧ isBlank c = false

theorem BeginsSolid.append {s : Text} (h : BeginsSolid s) (r : Text) : BeginsSolid (s ++ r) := by
  obtain ⟨c, s', rfl, hc⟩ := h
  exact ⟨c, s' ++ r, rfl, hc⟩

/-- A character that belongs to no gap and to no line break is not blank. -/
theorem isBlank_eq_false {c : Char} (hg : isGap c = false) (hb : isBreakChar c = false) :
    isBlank c = false := by
  simpa [isGap, hb] using hg

theorem isGap_of_isBreakChar {c : Char} (h : isBreakChar c = true) : isGap c = false := by
  simp [isGap, h]

theorem isGap_of_isBlank {c : Char} (h : isBlank c = false) : isGap c = false := by
  simp [isGap, h]

/-- Every text goes on behind its gap with something that is no gap. -/
theorem exists_gap (s : Text) :
    ∃ g s', s = g ++ s' ∧ Gap g ∧ ∀ c s'', s' = c :: s'' → isGap c = false := by
  refine ⟨s.takeWhile isGap, s.dropWhile isGap, List.takeWhile_append_dropWhile.symm,
    fun c hc => List.mem_takeWhile_imp hc, fun c s'' hc => ?_⟩
  have := List.head?_dropWhile_not isGap s
  rw [hc] at this
  simpa using this

/-- The kind of token for an opening that takes the rest of its line. -/
def Opening.lineKind? : Opening → Option Kind
  | line => some .line
  | regionStart => some .regionStart
  | regionEnd => some .regionEnd
  | block _ => none

/-- Line breaks and blank space are no constructs. -/
def Kind.isBlank : Kind → Bool
  | lineBreak | space => true
  | line | block | regionStart | regionEnd => false

/-- A step from a text inside `depth` open regions over its first token. -/
inductive Style.Takes (st : Style) (depth : Nat) : Text → Token → Text → Prop
  | space {g : Text} (hg : Gap g) (hne : g ≠ []) : Takes st depth g ⟨[], .space, g⟩ []
  | lineBreak {g r : Text} {b : LineBreak} (hg : Gap g)
      (hb : LineBreak.take? (b.text ++ r) = some (b, r)) :
      Takes st depth (g ++ (b.text ++ r)) ⟨g, .lineBreak, b.text⟩ r
  | line {g m y r : Text} {o : Opening} {kind : Kind} (hg : Gap g) (hm : BeginsSolid m)
      (ho : st.opening? (m ++ (y ++ r)) = some (m, o)) (hk : o.lineKind? = some kind)
      (hd : kind = .regionEnd → depth ≠ 0) (hy : Text.cutLine (y ++ r) = (y, r)) :
      Takes st depth (g ++ (m ++ (y ++ r))) ⟨g, kind, m ++ y⟩ r
  | block {g m y c r : Text} (hg : Gap g) (hm : BeginsSolid m)
      (ho : st.opening? (m ++ (y ++ (c ++ r))) = some (m, .block c))
      (hy : Text.cutAt? c (y ++ (c ++ r)) = some (y, r)) :
      Takes st depth (g ++ (m ++ (y ++ (c ++ r)))) ⟨g, .block, m ++ y ++ c⟩ r

namespace Style

variable {st : Style} {depth : Nat} {s r r' rest : Text} {t : Token} {ts us : List Token}

/-- The first step after a gap is over. -/
theorem next_gap {g : Text} (hg : Gap g) (hs : ∀ c s', s = c :: s' → isGap c = false) :
    st.next depth (g ++ s) =
      if s = [] then if g = [] then .error .endOfText else .ok (⟨[], .space, g⟩, [])
      else
        match LineBreak.take? s with
        | some (b, r) => .ok (⟨g, .lineBreak, b.text⟩, r)
        | none =>
          match st.opening? s with
          | some (marker, o) => construct g depth marker o (s.drop marker.length)
          | none => .error .otherText := by
  have htake : (g ++ s).takeWhile isGap = g := by
    rw [List.takeWhile_append_of_pos hg]
    cases s with
    | nil => simp
    | cons c s' => simp [hs c s' rfl]
  have hdrop : (g ++ s).dropWhile isGap = s := by
    rw [List.dropWhile_append_of_pos hg]
    cases s with
    | nil => simp
    | cons c s' => simp [hs c s' rfl]
  unfold next
  dsimp only
  generalize (g ++ s).takeWhile isGap = g' at htake ⊢
  generalize (g ++ s).dropWhile isGap = s' at hdrop ⊢
  subst htake hdrop
  rfl

theorem next_solid {g m : Text} {o : Opening} (hg : Gap g) (hm : BeginsSolid m)
    (ho : st.opening? (m ++ r) = some (m, o)) :
    st.next depth (g ++ (m ++ r)) = construct g depth m o r := by
  obtain ⟨c, s', hc, hb⟩ := hm.append r
  have hgap : ∀ c' s'', m ++ r = c' :: s'' → isGap c' = false := by
    intro c' s'' h
    rw [hc, List.cons.injEq] at h
    exact h.1 ▸ isGap_of_isBlank hb
  have hnone : LineBreak.take? (m ++ r) = none := by
    rw [hc, LineBreak.take?_eq_none (isBreakChar_of_isBlank hb)]
  rw [next_gap hg hgap, if_neg (by simp [hc]), hnone, ho]
  simp

theorem Takes.next (h : st.Takes depth s t r) : st.next depth s = .ok (t, r) := by
  cases h with
  | space hg hne =>
    have h := @next_gap st depth [] _ hg (by simp)
    rw [List.append_nil] at h
    rw [h, if_pos rfl, if_neg hne]
  | @lineBreak g r b hg hb =>
    obtain ⟨c, s', hc, hbreak⟩ := LineBreak.head_of_take? hb
    have hgap : ∀ c' s'', b.text ++ r = c' :: s'' → isGap c' = false := by
      intro c' s'' h
      rw [hc, List.cons.injEq] at h
      exact h.1 ▸ isGap_of_isBreakChar hbreak
    rw [next_gap hg hgap, if_neg (by simp [hc]), hb]
  | @line g m y r o kind hg hm ho hk hd hy =>
    rw [next_solid hg hm ho]
    cases o with
    | line => simp_all [Opening.lineKind?, construct]
    | regionStart => simp_all [Opening.lineKind?, construct]
    | regionEnd =>
      obtain rfl : Kind.regionEnd = kind := by simpa [Opening.lineKind?] using hk
      simp [construct, hd rfl, hy]
    | block c => simp [Opening.lineKind?] at hk
  | block hg hm ho hy =>
    rw [next_solid hg hm ho]
    simp [construct, hy]

/-- Where the text is not over, a marker that is found begins with a solid character. -/
theorem beginsSolid_of_opening? {m : Text} {o : Opening} (ho : st.opening? s = some (m, o))
    (hs : ∀ c s', s = c :: s' → isGap c = false) (hb : LineBreak.take? s = none) :
    BeginsSolid m := by
  obtain ⟨hne, he⟩ := opening?_spec ho
  cases m with
  | nil => exact absurd rfl hne
  | cons c m =>
    have hc : isBreakChar c = false := by
      rw [Bool.eq_false_iff]
      intro hc
      obtain ⟨b, r, h⟩ := LineBreak.exists_take?_cons hc (m ++ s.drop (c :: m).length)
      rw [he, List.cons_append, h] at hb
      cases hb
    exact ⟨c, m, rfl, isBlank_eq_false (hs c _ he) hc⟩

theorem takes_of_construct {g m : Text} {o : Opening} (hg : Gap g) (hm : BeginsSolid m)
    (ho : st.opening? (m ++ s) = some (m, o)) (h : construct g depth m o s = .ok (t, r)) :
    st.Takes depth (g ++ (m ++ s)) t r := by
  have hline {kind : Kind} (hk : o.lineKind? = some kind) (hd : kind = .regionEnd → depth ≠ 0) :
      st.Takes depth (g ++ (m ++ s)) ⟨g, kind, m ++ (Text.cutLine s).1⟩ (Text.cutLine s).2 := by
    have hs := Text.cutLine_append s
    have := Takes.line (y := (Text.cutLine s).1) (r := (Text.cutLine s).2) hg hm
      (by rw [hs]; exact ho) hk hd (by rw [hs])
    rwa [hs] at this
  cases o with
  | line =>
    simp only [construct, Except.ok.injEq, Prod.mk.injEq] at h
    exact h.1 ▸ h.2 ▸ hline rfl (by simp)
  | regionStart =>
    simp only [construct, Except.ok.injEq, Prod.mk.injEq] at h
    exact h.1 ▸ h.2 ▸ hline rfl (by simp)
  | regionEnd =>
    simp only [construct] at h
    split at h
    · simp at h
    next hd =>
      simp only [Except.ok.injEq, Prod.mk.injEq] at h
      exact h.1 ▸ h.2 ▸ hline rfl fun _ => hd
  | block c =>
    simp only [construct] at h
    split at h
    next y r' hy =>
      simp only [Except.ok.injEq, Prod.mk.injEq] at h
      have hs := Text.eq_of_cutAt? hy
      rw [List.append_assoc] at hs
      rw [hs] at ho hy ⊢
      exact h.1 ▸ h.2 ▸ Takes.block hg hm ho hy
    next => simp at h

/-- The rules for the first token are complete. -/
theorem next_eq_ok_iff : st.next depth s = .ok (t, r) ↔ st.Takes depth s t r := by
  refine ⟨fun h => ?_, Takes.next⟩
  obtain ⟨g, s', rfl, hg, hhead⟩ := exists_gap s
  rw [next_gap hg hhead] at h
  split at h
  next he =>
    split at h
    · simp at h
    next hne =>
      simp only [Except.ok.injEq, Prod.mk.injEq] at h
      rw [he, List.append_nil, ← h.1, ← h.2]
      exact .space hg hne
  next =>
    split at h
    next b r' hb =>
      simp only [Except.ok.injEq, Prod.mk.injEq] at h
      have hs' := LineBreak.eq_of_take? hb
      rw [hs'] at hb ⊢
      exact h.1 ▸ h.2 ▸ .lineBreak hg hb
    next hb =>
      split at h
      next m o ho =>
        have he := (opening?_spec ho).2
        have hm := beginsSolid_of_opening? ho hhead hb
        rw [he] at ho ⊢
        exact takes_of_construct hg hm ho h
      next => simp at h

theorem Takes.eq_append (h : st.Takes depth s t r) : s = t.text ++ r := (next_spec h.next).1

theorem Takes.text_ne (h : st.Takes depth s t r) : t.text ≠ [] := by
  simp [Token.text, (next_spec h.next).2]

theorem Takes.ne_nil (h : st.Takes depth s t r) : s ≠ [] := by
  rw [h.eq_append]
  simp [h.text_ne]

theorem Takes.gap (h : st.Takes depth s t r) : Gap t.gap := by
  cases h with
  | space => exact gap_nil
  | lineBreak hg | line hg | block hg => exact hg

end Style

/-! ## What follows a token does not matter to it -/

section Largest

variable {α : Type} {size : α → Nat} {xs : List α} {x y : α}

theorem size_le_firstLargest? (h : firstLargest? size xs = some y) (hx : x ∈ xs) :
    size x ≤ size y := by
  induction xs generalizing y with
  | nil => simp at hx
  | cons a xs ih =>
    simp only [firstLargest?] at h
    split at h
    next z hz =>
      rcases List.mem_cons.1 hx with rfl | hx
      · split at h <;> simp only [Option.some.injEq] at h <;> subst h <;> omega
      · have := ih hz hx
        split at h <;> simp only [Option.some.injEq] at h <;> subst h <;> omega
    next hz =>
      rw [firstLargest?_eq_none_iff] at hz
      subst hz
      simp only [Option.some.injEq] at h
      rw [← h, List.mem_singleton.1 hx]

/-- The first largest entry that passes a test is that of any stronger test it passes. -/
theorem firstLargest?_filter {p q : α → Bool} (hqp : ∀ y ∈ xs, q y = true → p y = true)
    (hx : q x = true) (h : firstLargest? size (xs.filter p) = some x) :
    firstLargest? size (xs.filter q) = some x := by
  induction xs with
  | nil => simp [firstLargest?] at h
  | cons a xs ih =>
    have hqp' : ∀ y ∈ xs, q y = true → p y = true := fun y hy => hqp y (List.mem_cons_of_mem a hy)
    cases hp : p a with
    | false =>
      have hq : q a = false := by
        rw [Bool.eq_false_iff]
        intro hq
        rw [hqp a List.mem_cons_self hq] at hp
        cases hp
      rw [List.filter_cons_of_neg (by simp [hp])] at h
      rw [List.filter_cons_of_neg (by simp [hq])]
      exact ih hqp' h
    | true =>
      rw [List.filter_cons_of_pos hp] at h
      simp only [firstLargest?] at h
      split at h
      next y hy =>
        split at h
        next hlt =>
          obtain rfl : y = x := by simpa using h
          have hy' := ih hqp' hy
          cases hq : q a with
          | false => rw [List.filter_cons_of_neg (by simp [hq]), hy']
          | true => simp [List.filter_cons_of_pos hq, firstLargest?, hy', hlt]
        next hlt =>
          obtain rfl : a = x := by simpa using h
          rw [List.filter_cons_of_pos hx]
          simp only [firstLargest?]
          split
          next z hz =>
            have hz' := List.mem_filter.1 (mem_of_firstLargest? hz)
            have hzp : z ∈ xs.filter p := List.mem_filter.2 ⟨hz'.1, hqp' z hz'.1 hz'.2⟩
            have := size_le_firstLargest? hy hzp
            rw [if_neg (by omega)]
          next => rfl
      next hnone =>
        obtain rfl : a = x := by simpa using h
        rw [firstLargest?_eq_none_iff] at hnone
        have hnil : xs.filter q = [] := by
          rw [List.filter_eq_nil_iff] at hnone ⊢
          exact fun y hy hq => hnone y hy (hqp' y hy hq)
        rw [List.filter_cons_of_pos hx, hnil]
        rfl

end Largest

namespace Style

variable {st : Style} {depth : Nat} {s r r' rest : Text} {t : Token} {ts us : List Token}

theorem opening?_shorten {m : Text} {o : Opening} (ho : st.opening? (m ++ s) = some (m, o))
    (hr : r <+: s) : st.opening? (m ++ r) = some (m, o) := by
  refine firstLargest?_filter (fun p _ hp => ?_) ?_ ho
  · rw [Text.beginsWith_iff] at hp ⊢
    exact hp.trans ((List.prefix_append_right_inj m).2 hr)
  · rw [Text.beginsWith_iff]
    exact List.prefix_append m r

theorem Takes.shorten (h : st.Takes depth s t r) (hr : r' <+: r) :
    st.Takes depth (t.text ++ r') t r' := by
  cases h with
  | space hg hne =>
    obtain rfl : r' = [] := List.prefix_nil.1 hr
    have h' : st.Takes depth _ _ _ := .space hg hne
    simpa [Token.text] using h'
  | lineBreak hg hb =>
    have h' : st.Takes depth _ _ _ := .lineBreak hg (LineBreak.take?_shorten hb hr)
    simpa [Token.text] using h'
  | @line g m y r o kind hg hm ho hk hd hy =>
    have ho' := opening?_shorten ho ((List.prefix_append_right_inj y).2 hr)
    have h' : st.Takes depth _ _ _ := .line hg hm ho' hk hd (Text.cutLine_shorten hy hr)
    simpa [Token.text] using h'
  | @block g m y c r hg hm ho hy =>
    have ho' := opening?_shorten ho ((List.prefix_append_right_inj y).2
      ((List.prefix_append_right_inj c).2 hr))
    have h' : st.Takes depth _ _ _ := .block hg hm ho' (Text.cutAt?_congr hy r')
    simpa [Token.text] using h'

/-- A construct begins with a character that is not blank. -/
theorem Takes.solid (h : st.Takes depth s t r) (hk : t.kind.isBlank = false) :
    BeginsSolid t.body := by
  cases h with
  | space => simp [Kind.isBlank] at hk
  | lineBreak => simp [Kind.isBlank] at hk
  | line hg hm => exact hm.append _
  | block hg hm =>
    rw [List.append_assoc]
    exact hm.append _

end Style

/-! ## Many tokens -/

@[simp] theorem depthAfter_nil (depth : Nat) : depthAfter depth [] = depth := rfl

@[simp] theorem depthAfter_cons (depth : Nat) (t : Token) (ts : List Token) :
    depthAfter depth (t :: ts) = depthAfter (t.kind.depthAfter depth) ts := rfl

@[simp] theorem depthAfter_append (depth : Nat) (ts us : List Token) :
    depthAfter depth (ts ++ us) = depthAfter (depthAfter depth ts) us := by
  simp [depthAfter]

/-- Steps over tokens, one after the other, from a text to what is left of it. -/
inductive Style.Reads (st : Style) : Nat → Text → List Token → Text → Prop
  | done {depth : Nat} {s : Text} : Reads st depth s [] s
  | step {depth : Nat} {s r rest : Text} {t : Token} {ts : List Token} :
      st.Takes depth s t r → Reads st (t.kind.depthAfter depth) r ts rest →
      Reads st depth s (t :: ts) rest

namespace Style

variable {st : Style} {depth : Nat} {s r r' rest : Text} {t : Token} {ts us : List Token}

theorem Reads.eq_append (h : st.Reads depth s ts r) : s = textOf ts ++ r := by
  induction h with
  | done => simp
  | step ht _ ih => rw [ht.eq_append, ih]; simp

theorem Reads.trans (h : st.Reads depth s ts r) (h' : st.Reads (depthAfter depth ts) r us rest) :
    st.Reads depth s (ts ++ us) rest := by
  induction h with
  | done => exact h'
  | step ht _ ih => exact .step ht (ih h')

theorem Reads.split (h : st.Reads depth s (ts ++ us) rest) :
    ∃ r, st.Reads depth s ts r ∧ st.Reads (depthAfter depth ts) r us rest := by
  induction ts generalizing depth s with
  | nil => exact ⟨s, .done, h⟩
  | cons t ts ih =>
    cases h with
    | step ht h =>
      obtain ⟨r, hr, hr'⟩ := ih h
      exact ⟨r, .step ht hr, hr'⟩

theorem Reads.shorten (h : st.Reads depth s ts r) (hr : r' <+: r) :
    st.Reads depth (textOf ts ++ r') ts r' := by
  induction h with
  | done => exact .done
  | @step depth s r rest t ts ht h ih =>
    rw [textOf_cons, List.append_assoc]
    refine .step (ht.shorten ?_) (ih hr)
    rw [h.eq_append]
    exact (List.prefix_append_right_inj _).2 hr

theorem Reads.split_last (h : st.Reads depth s (ts ++ [t]) rest) :
    ∃ r, st.Reads depth s ts r ∧ st.Takes (depthAfter depth ts) r t rest := by
  obtain ⟨r, hts, hlast⟩ := h.split
  cases hlast with
  | step ht hdone =>
    cases hdone
    exact ⟨r, hts, ht⟩

theorem Reads.text_ne (h : st.Reads depth s ts r) (ht : t ∈ ts) : t.text ≠ [] := by
  induction h with
  | done => cases ht
  | step hu _ ih =>
    rcases List.mem_cons.1 ht with rfl | ht
    · exact hu.text_ne
    · exact ih ht

/-- Each construct that is read has a character that is not blank. -/
theorem Reads.solid_of_mem (h : st.Reads depth s ts r) (ht : t ∈ ts)
    (hk : t.kind.isBlank = false) : ∃ c ∈ t.text, isBlank c = false := by
  induction h with
  | done => cases ht
  | step hu _ ih =>
    rcases List.mem_cons.1 ht with rfl | ht
    · obtain ⟨c, y, hy, hc⟩ := hu.solid hk
      exact ⟨c, by simp [Token.text, hy], hc⟩
    · exact ih ht

theorem reads_run (st : Style) (depth : Nat) (s : Text) :
    st.Reads depth s (st.run depth s).tokens (st.run depth s).rest := by
  induction hn : s.length using Nat.strongRecOn generalizing s depth with
  | _ n ih =>
    subst hn
    cases h : st.next depth s with
    | error why => rw [run_of_error h]; exact .done
    | ok p =>
      obtain ⟨t, r⟩ := p
      rw [run_of_ok h]
      exact .step (next_eq_ok_iff.1 h) (ih r.length (length_lt_of_next h) _ r rfl)

/-- Reading goes the way of the run, which goes on from where the reading ends. -/
theorem Reads.run_eq (h : st.Reads depth s ts r) :
    st.run depth s =
      { st.run (depthAfter depth ts) r with
        tokens := ts ++ (st.run (depthAfter depth ts) r).tokens } := by
  induction h with
  | done => rfl
  | step ht _ ih => rw [run_of_ok ht.next, ih]; rfl

theorem run_nil (st : Style) (depth : Nat) : st.run depth [] = ⟨[], .endOfText, []⟩ :=
  run_of_error (by simp [Style.next])

end Style
end Letterhead.Comment

import Letterhead.Comment.Style
import Letterhead.Text.LineBreak

/-
  The comment tokens at the start of a text. A run of tokens goes on as long as the text
  continues with blank space, line breaks, comments and region markers; it records why it stopped
  and what follows. No character is lost: `Run.text_append_rest`.
-/

namespace Letterhead.Comment

/-- What a token is. Blank space is a token of its own only at the end of a text. -/
inductive Kind where
  | lineBreak
  | line
  | block
  | regionStart
  | regionEnd
  | space
  deriving DecidableEq, Repr

/-- A token: blank space without line breaks, and the text of the token itself. -/
structure Token where
  gap : Text
  kind : Kind
  body : Text
  deriving DecidableEq, Repr

/-- All characters of a token. -/
def Token.text (t : Token) : Text := t.gap ++ t.body

/-- Why a run of tokens stops. -/
inductive Stop where
  | endOfText
  | otherText
  | strayRegionEnd
  | unclosedBlock
  deriving DecidableEq, Repr

/-- The number of open regions after a token. -/
def Kind.depthAfter : Kind → Nat → Nat
  | regionStart, depth => depth + 1
  | regionEnd, depth => depth - 1
  | _, depth => depth

/-- What a marker opens. -/
inductive Opening where
  | regionEnd
  | regionStart
  | block (closing : Text)
  | line
  deriving DecidableEq, Repr

namespace Style

/-- The markers of a style. Of two markers of one length that both match the earlier one wins. -/
def openings (st : Style) : List (Text × Opening) :=
  (st.region.map fun d => (d.closing, .regionEnd)).toList ++
  (st.region.map fun d => (d.opening, .regionStart)).toList ++
  (st.block.map fun d => (d.opening, .block d.closing)).toList ++
  (st.line.map fun m => (m.text, .line)).toList

/-- The longest marker that a text begins with. -/
def opening? (st : Style) (s : Text) : Option (Text × Opening) :=
  firstLargest? (fun o => o.1.length) (st.openings.filter fun o => Text.beginsWith o.1 s)

/-- Whether a text begins, after spaces and tabs, with a marker. -/
def startsWithComment (st : Style) (s : Text) : Bool :=
  (st.opening? (s.dropWhile fun c => c == ' ' || c == '\t')).isSome

end Style

/-- Blank characters within a line. -/
def isGap (c : Char) : Bool := isBlank c && !isBreakChar c

/-- The next token with the text after it, or the reason to stop. -/
abbrev Step := Except Stop (Token × Text)

namespace Style

/-- The token that a marker opens: a block reaches through the nearest closing delimiter, all
others through the end of their line. -/
def construct (gap : Text) (depth : Nat) (marker : Text) (o : Opening) (r : Text) : Step :=
  let toLineEnd (kind : Kind) : Step :=
    let (l, r') := Text.cutLine r
    .ok (⟨gap, kind, marker ++ l⟩, r')
  match o with
  | .line => toLineEnd .line
  | .regionStart => toLineEnd .regionStart
  | .regionEnd => if depth = 0 then .error .strayRegionEnd else toLineEnd .regionEnd
  | .block closing =>
    match Text.cutAt? closing r with
    | some (inner, r') => .ok (⟨gap, .block, marker ++ inner ++ closing⟩, r')
    | none => .error .unclosedBlock

/-- The first token of a text inside `depth` open regions. -/
def next (st : Style) (depth : Nat) (s : Text) : Step :=
  let gap := s.takeWhile isGap
  let s' := s.dropWhile isGap
  if s' = [] then
    if gap = [] then .error .endOfText else .ok (⟨[], .space, gap⟩, [])
  else
    match LineBreak.take? s' with
    | some (b, r) => .ok (⟨gap, .lineBreak, b.text⟩, r)
    | none =>
      match st.opening? s' with
      | some (marker, o) => construct gap depth marker o (s'.drop marker.length)
      | none => .error .otherText

end Style

/-! ## Nothing is lost -/

namespace Style

variable {st : Style} {depth : Nat} {s r : Text} {t : Token}

theorem ne_nil_of_mem_openings {o : Text × Opening} (h : o ∈ st.openings) : o.1 ≠ [] := by
  simp only [openings, List.mem_append, Option.mem_toList, Option.map_eq_some_iff] at h
  rcases h with ((h | h) | h) | h <;> obtain ⟨d, -, rfl⟩ := h
  · exact d.closing_ne
  · exact d.opening_ne
  · exact d.opening_ne
  · exact d.text_ne

theorem opening?_spec {marker : Text} {o : Opening} (h : st.opening? s = some (marker, o)) :
    marker ≠ [] ∧ s = marker ++ s.drop marker.length := by
  have hm := List.mem_filter.1 (mem_of_firstLargest? h)
  obtain ⟨r, hr⟩ := Option.isSome_iff_exists.1 hm.2
  have := Text.eq_of_after? hr
  refine ⟨ne_nil_of_mem_openings hm.1, ?_⟩
  rw [this]
  simp

theorem construct_spec {gap marker : Text} {o : Opening} {r r' : Text}
    (h : construct gap depth marker o r = .ok (t, r')) :
    t.text ++ r' = gap ++ (marker ++ r) ∧ (marker ≠ [] → t.body ≠ []) := by
  have line {kind : Kind} : (⟨gap, kind, marker ++ (Text.cutLine r).1⟩ : Token).text ++
      (Text.cutLine r).2 = gap ++ (marker ++ r) := by
    simp [Token.text, Text.cutLine_append]
  cases o with
  | line =>
    simp only [construct, Except.ok.injEq, Prod.mk.injEq] at h
    exact ⟨h.1 ▸ h.2 ▸ line, fun hm => by simp [← h.1, hm]⟩
  | regionStart =>
    simp only [construct, Except.ok.injEq, Prod.mk.injEq] at h
    exact ⟨h.1 ▸ h.2 ▸ line, fun hm => by simp [← h.1, hm]⟩
  | regionEnd =>
    simp only [construct] at h
    split at h
    · simp at h
    · simp only [Except.ok.injEq, Prod.mk.injEq] at h
      exact ⟨h.1 ▸ h.2 ▸ line, fun hm => by simp [← h.1, hm]⟩
  | block closing =>
    simp only [construct] at h
    split at h
    next inner r'' hc =>
      simp only [Except.ok.injEq, Prod.mk.injEq] at h
      refine ⟨?_, fun hm => by simp [← h.1, hm]⟩
      rw [← h.1, ← h.2, Text.eq_of_cutAt? hc]
      simp [Token.text]
    next => simp at h

theorem next_spec (h : st.next depth s = .ok (t, r)) : s = t.text ++ r ∧ t.body ≠ [] := by
  have hs : s = s.takeWhile isGap ++ s.dropWhile isGap := List.takeWhile_append_dropWhile.symm
  unfold next at h
  dsimp only at h
  split at h
  next he =>
    split at h
    · simp at h
    next hg =>
      simp only [Except.ok.injEq, Prod.mk.injEq] at h
      refine ⟨?_, by simpa [← h.1] using hg⟩
      rw [← h.1, ← h.2]
      simpa [Token.text, he] using hs
  next =>
    split at h
    next b r' hb =>
      simp only [Except.ok.injEq, Prod.mk.injEq] at h
      rw [← h.1, ← h.2]
      refine ⟨?_, b.text_ne⟩
      conv => lhs; rw [hs, LineBreak.eq_of_take? hb]
      simp [Token.text]
    next =>
      split at h
      next marker o ho =>
        obtain ⟨hne, hd⟩ := opening?_spec ho
        obtain ⟨ht, hb⟩ := construct_spec h
        exact ⟨by rw [ht, ← hd, ← hs], hb hne⟩
      next => simp at h

theorem length_lt_of_next (h : st.next depth s = .ok (t, r)) : r.length < s.length := by
  obtain ⟨hs, hb⟩ := next_spec h
  have := List.length_pos_iff.2 hb
  rw [hs]
  simp only [Token.text, List.length_append]
  omega

end Style

/-! ## Runs -/

/-- The tokens at the start of a text, why they stop, and the text that follows them. -/
structure Run where
  tokens : List Token
  stop : Stop
  rest : Text
  deriving DecidableEq, Repr

/-- The characters of a list of tokens. -/
def textOf (ts : List Token) : Text := ts.flatMap Token.text

@[simp] theorem textOf_nil : textOf [] = [] := rfl

@[simp] theorem textOf_cons (t : Token) (ts : List Token) :
    textOf (t :: ts) = t.text ++ textOf ts := by simp [textOf]

@[simp] theorem textOf_append (ts us : List Token) :
    textOf (ts ++ us) = textOf ts ++ textOf us := by simp [textOf]

theorem textOf_flatten (tss : List (List Token)) :
    (tss.map textOf).flatten = textOf tss.flatten := by
  induction tss with
  | nil => rfl
  | cons ts tss ih => simp [ih]

/-- The number of open regions after a list of tokens. -/
def depthAfter (depth : Nat) (ts : List Token) : Nat :=
  ts.foldl (fun d t => t.kind.depthAfter d) depth

/-- Read tokens from the start of a text inside `depth` open regions. -/
def Style.run (st : Style) (depth : Nat) (s : Text) : Run :=
  match _h : st.next depth s with
  | .error why => ⟨[], why, s⟩
  | .ok (t, r) =>
    let run := st.run (t.kind.depthAfter depth) r
    { run with tokens := t :: run.tokens }
termination_by s.length
decreasing_by exact Style.length_lt_of_next _h

theorem Style.run_of_error {st : Style} {depth : Nat} {s : Text} {why : Stop}
    (h : st.next depth s = .error why) : st.run depth s = ⟨[], why, s⟩ := by
  unfold Style.run
  split <;> simp_all

theorem Style.run_of_ok {st : Style} {depth : Nat} {s r : Text} {t : Token}
    (h : st.next depth s = .ok (t, r)) :
    st.run depth s =
      { st.run (t.kind.depthAfter depth) r with
        tokens := t :: (st.run (t.kind.depthAfter depth) r).tokens } := by
  rw [Style.run]
  split <;> simp_all

theorem Style.text_run_append_rest (st : Style) (depth : Nat) (s : Text) :
    textOf (st.run depth s).tokens ++ (st.run depth s).rest = s := by
  induction hn : s.length using Nat.strongRecOn generalizing s depth with
  | _ n ih =>
    subst hn
    cases h : st.next depth s with
    | error why => simp [run_of_error h]
    | ok p =>
      obtain ⟨t, r⟩ := p
      rw [run_of_ok h]
      have := ih r.length (length_lt_of_next h) (t.kind.depthAfter depth) r rfl
      simp [this, (next_spec h).1]

end Letterhead.Comment

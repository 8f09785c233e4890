import Letterhead.Comment.Token

/-
  The header of a text: its comment tokens up to the last point where no region is open. Blank
  lines outside regions cut the header into blocks. A text is a header of a style when nothing of
  it is left over and it leaves nothing open.
-/

namespace Letterhead.Comment

/-- The longest initial part of a token list after which no region is open, when `depth` regions
are open before it. -/
def settled (depth : Nat) : List Token → List Token
  | [] => []
  | t :: ts =>
    let depth' := t.kind.depthAfter depth
    if depth' = 0 then t :: settled depth' ts
    else
      match settled depth' ts with
      | [] => []
      | us => t :: us

theorem settled_prefix (depth : Nat) (ts : List Token) : settled depth ts <+: ts := by
  induction ts generalizing depth with
  | nil => simp [settled]
  | cons t ts ih =>
    simp only [settled]
    split
    · simpa using ih _
    · have := ih (t.kind.depthAfter depth)
      split
      · simp
      · simp_all

/-! ## Blocks -/

/-- What decides whether a token opens a block: whether its line holds no construct before it,
whether a blank line precedes, and the number of open regions. -/
structure LineState where
  fresh : Bool := true
  afterBlank : Bool := false
  depth : Nat := 0
  deriving DecidableEq, Repr

namespace LineState

/-- A construct opens a block when it is the first of its line, a blank line precedes it and no
region is open. -/
def opens (s : LineState) (t : Token) : Bool :=
  t.kind != .lineBreak && t.kind != .space && s.fresh && s.afterBlank && s.depth == 0

/-- The state after a token. Line comments and region markers end their line; a line break makes
a blank line when no construct stands before it. -/
def after (s : LineState) (t : Token) : LineState :=
  let depth := t.kind.depthAfter s.depth
  match t.kind with
  | .lineBreak => { fresh := true, afterBlank := s.afterBlank || s.fresh, depth }
  | .block => { fresh := false, afterBlank := false, depth }
  | .line | .regionStart | .regionEnd => { fresh := true, afterBlank := false, depth }
  | .space => s

end LineState

/-- Cut tokens before each one that opens a block: the tokens before the first cut, and the
blocks after it. -/
def cutBlocks (s : LineState) : List Token → List Token × List (List Token)
  | [] => ([], [])
  | t :: ts =>
    let (first, blocks) := cutBlocks (s.after t) ts
    if s.opens t then ([], (t :: first) :: blocks) else (t :: first, blocks)

/-- The blocks of a token list. -/
def blocksOf (ts : List Token) : List (List Token) :=
  match cutBlocks {} ts with
  | ([], blocks) => blocks
  | (first, blocks) => first :: blocks

theorem cutBlocks_flatten (s : LineState) (ts : List Token) :
    (cutBlocks s ts).1 ++ (cutBlocks s ts).2.flatten = ts := by
  induction ts generalizing s with
  | nil => rfl
  | cons t ts ih =>
    simp only [cutBlocks]
    split <;> simpa using ih _

theorem blocksOf_flatten (ts : List Token) : (blocksOf ts).flatten = ts := by
  have h := cutBlocks_flatten {} ts
  unfold blocksOf
  split <;> simp_all

/-! ## Headers -/

namespace Style

/-- The tokens of the header of a text. -/
def headerTokens (st : Style) (s : Text) : List Token := settled 0 (st.run 0 s).tokens

/-- The header that a text begins with; empty when it begins with none. -/
def header (st : Style) (s : Text) : Text := textOf (st.headerTokens s)

/-- The blocks of the header of a text. -/
def blocks (st : Style) (s : Text) : List Text := (blocksOf (st.headerTokens s)).map textOf

/-- Whether the comment run stops at a block comment that is never closed. -/
def hasUnclosedBlock (st : Style) (s : Text) : Bool := (st.run 0 s).stop == .unclosedBlock

/-- Whether the comment run leaves no block comment and no region open. -/
def isBalanced (st : Style) (s : Text) : Bool :=
  !st.hasUnclosedBlock s && depthAfter 0 (st.run 0 s).tokens == 0

/-- Whether a text is a balanced header and nothing else. -/
def isHeader (st : Style) (s : Text) : Bool := st.isBalanced s && st.header s == s

theorem header_prefix (st : Style) (s : Text) : st.header s <+: s := by
  obtain ⟨ts, hts⟩ := settled_prefix 0 (st.run 0 s).tokens
  refine ⟨textOf ts ++ (st.run 0 s).rest, ?_⟩
  rw [← List.append_assoc, header, headerTokens, ← textOf_append, hts, text_run_append_rest]

theorem blocks_flatten (st : Style) (s : Text) : (st.blocks s).flatten = st.header s := by
  rw [blocks, textOf_flatten, blocksOf_flatten, header]

end Style

/-- The offsets of consecutive texts, the first of which starts at `start`. -/
def spans (start : Nat) : List Text → List (Nat × Nat)
  | [] => []
  | s :: ss => (start, start + s.length) :: spans (start + s.length) ss

end Letterhead.Comment

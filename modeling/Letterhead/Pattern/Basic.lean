import Letterhead.Pattern.CharSet

/-
  Patterns: the regular expressions that describe the leading text which stays above a header. A
  pattern is a list of steps, and steps may hold patterns of their own. The module Pattern.Match
  says what they match.
-/

namespace Letterhead

/-- Tests on a place in the text. `lastLineEnd` holds at the end and before a line feed that ends
the text. -/
inductive Anchor where
  | textStart
  | lineStart
  | textEnd
  | lineEnd
  | lastLineEnd
  | wordEdge (negated ascii : Bool)
  deriving DecidableEq, Repr

/-- How a repetition goes on: as often as it can and then less often, as seldom as it can and then
more often, or as often as it can and no other way. -/
inductive Greed where
  | greedy
  | lazy
  | possessive
  deriving DecidableEq, Repr

/-- A step of a pattern. Groups are numbered from 1, and `mark` notes where one begins or ends;
`hi = none` is no upper bound; `behind` is the distance that a look back begins at. -/
inductive Step where
  | one (set : CharSet)
  | anchor (a : Anchor)
  | mark (group : Nat) (atEnd : Bool)
  | choice (alternatives : List (List Step))
  | repeated (lo : Nat) (hi : Option Nat) (greed : Greed) (body : List Step)
  | backref (group : Nat) (rule : CaseRule)
  | look (negated : Bool) (behind : Nat) (body : List Step)
  | atomic (body : List Step)
  | ifGroup (group : Nat) (yes no : List Step)
  deriving Repr

namespace Step

mutual

/-- Whether two steps are the same. -/
def same : Step → Step → Bool
  | .one s, .one t => s = t
  | .anchor a, .anchor b => a = b
  | .mark g e, .mark h f => g = h && e = f
  | .choice ps, .choice qs => sameChoices ps qs
  | .repeated lo hi greed p, .repeated lo' hi' greed' q =>
    lo = lo' && hi = hi' && greed = greed' && sameSteps p q
  | .backref g r, .backref h t => g = h && r = t
  | .look n b p, .look m c q => n = m && b = c && sameSteps p q
  | .atomic p, .atomic q => sameSteps p q
  | .ifGroup g p q, .ifGroup h p' q' => g = h && sameSteps p p' && sameSteps q q'
  | _, _ => false

/-- Whether two patterns are the same. -/
def sameSteps : List Step → List Step → Bool
  | [], [] => true
  | a :: p, b :: q => same a b && sameSteps p q
  | _, _ => false

/-- Whether the alternatives of two choices are the same. -/
def sameChoices : List (List Step) → List (List Step) → Bool
  | [], [] => true
  | p :: ps, q :: qs => sameSteps p q && sameChoices ps qs
  | _, _ => false

end

mutual

theorem same_iff (a b : Step) : same a b = true ↔ a = b := by
  cases a <;> cases b <;>
    simp [same, sameSteps_iff, sameChoices_iff, and_assoc]

theorem sameSteps_iff (p q : List Step) : sameSteps p q = true ↔ p = q := by
  cases p <;> cases q <;> simp [sameSteps, same_iff, sameSteps_iff]

theorem sameChoices_iff (p q : List (List Step)) : sameChoices p q = true ↔ p = q := by
  cases p <;> cases q <;> simp [sameChoices, sameSteps_iff, sameChoices_iff]

end

instance : DecidableEq Step := fun a b => decidable_of_iff (same a b = true) (same_iff a b)

end Step

/-- A regular expression: steps that are taken one after the other. -/
abbrev Pattern := List Step

namespace Pattern

/-- A group that is captured. -/
def capture (group : Nat) (p : Pattern) : Pattern :=
  .mark group false :: p ++ [.mark group true]

/-! ## Widths -/

/-- The least and greatest number of characters that a pattern can cover, as far as they are below
`Width.limit`. -/
structure Width where
  least : Nat
  greatest : Nat
  deriving DecidableEq, Repr

namespace Width

/-- Widths are not told apart from here on. -/
def limit : Nat := Nat.pow 2 64

def zero : Width := ⟨0, 0⟩

def add (a b : Width) : Width :=
  ⟨min (a.least + b.least) limit, min (a.greatest + b.greatest) limit⟩

def union (a b : Width) : Width := ⟨min a.least b.least, max a.greatest b.greatest⟩

def times (lo : Nat) (hi : Option Nat) (a : Width) : Width :=
  ⟨min (lo * a.least) limit,
    match hi with
    | some n => min (n * a.greatest) limit
    | none => if a.greatest = 0 then 0 else limit⟩

/-- Whether a look back over the width begins at one distance only. -/
def isFixed (a : Width) : Bool := a.least == a.greatest && a.least < Nat.pow 2 32

end Width

mutual

/-- The width of a step, where `group` gives the widths of the groups it refers to. -/
def stepWidth (group : Nat → Width) : Step → Width
  | .anchor _ | .mark .. | .look .. => .zero
  | .one _ => ⟨1, 1⟩
  | .choice ps => choiceWidth group ps
  | .repeated lo hi _ p => (width group p).times lo hi
  | .backref n _ => group n
  | .atomic p => width group p
  | .ifGroup _ p q => (width group p).union (width group q)

/-- The width of a pattern. -/
def width (group : Nat → Width) : List Step → Width
  | [] => .zero
  | s :: p => (stepWidth group s).add (width group p)

/-- The width of a choice between patterns. -/
def choiceWidth (group : Nat → Width) : List (List Step) → Width
  | [] => ⟨Width.limit, 0⟩
  | p :: ps => (width group p).union (choiceWidth group ps)

end

end Pattern
end Letterhead

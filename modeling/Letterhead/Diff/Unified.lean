import Letterhead.Diff.Script
import Letterhead.Text.Rows

/-
  Unified patches: two lines with labels, and then hunks. A hunk shows changes with up to three kept
  lines before and after them, below a line that tells which lines of both texts it covers.
-/

namespace Letterhead.Diff

/-- A step with the numbers of lines above it in both texts. -/
structure Placed where
  oldAt : Nat
  newAt : Nat
  step : Step Text
  deriving DecidableEq, Repr

/-- The steps of a script at their places. -/
def placed (oldAt newAt : Nat) : List (Step Text) → List Placed
  | [] => []
  | s :: ss => ⟨oldAt, newAt, s⟩ :: placed (oldAt + s.old.length) (newAt + s.new.length) ss

namespace Placed

/-- The first lines of a kept step. -/
def first (n : Nat) (p : Placed) : Placed :=
  match p.step with
  | .keep ls => { p with step := .keep (ls.take n) }
  | .change .. => p

/-- The last lines of a kept step. -/
def last (n : Nat) (p : Placed) : Placed :=
  match p.step with
  | .keep ls =>
    let above := ls.length - n
    ⟨p.oldAt + above, p.newAt + above, .keep (ls.drop above)⟩
  | .change .. => p

def isKept (p : Placed) : Bool :=
  match p.step with
  | .keep _ => true
  | .change .. => false

end Placed

/-- The number of kept lines that are shown before and after a change. -/
def context : Nat := 3

/-- Shorten the kept lines at the start. -/
def trimFirst : List Placed → List Placed
  | p :: ps => p.last context :: ps
  | [] => []

/-- Shorten the kept lines at the end. -/
def trimLast : List Placed → List Placed
  | [] => []
  | [p] => [p.first context]
  | p :: ps => p :: trimLast ps

/-- Cut steps into groups inside the long kept ones; the first group comes by itself. -/
def groups : List Placed → List Placed × List (List Placed)
  | [] => ([], [])
  | p :: ps =>
    let (g, gs) := groups ps
    if p.isKept ∧ 2 * context < p.step.old.length then
      ([p.first context], (p.last context :: g) :: gs)
    else (p :: g, gs)

/-- The groups with changes in them. -/
def hunks (steps : List Placed) : List (List Placed) :=
  let (g, gs) := groups (trimLast (trimFirst steps))
  (g :: gs).filter fun g => g.any fun p => !p.isKept

/-- The lines from `start` on, as a hunk tells them. -/
def rangeText (start length : Nat) : String :=
  if length = 1 then toString (start + 1)
  else if length = 0 then s!"{start},0"
  else s!"{start + 1},{length}"

/-- The lines of a step, each with its mark. -/
def stepLines : Step Text → List Text
  | .keep ls => ls.map (' ' :: ·)
  | .change old new => old.map ('-' :: ·) ++ new.map ('+' :: ·)

/-- The lines of a hunk. -/
def hunkLines (steps : List Placed) : List Text :=
  let oldLength := (steps.flatMap fun p => p.step.old).length
  let newLength := (steps.flatMap fun p => p.step.new).length
  let oldRange := rangeText ((steps.head?.map (·.oldAt)).getD 0) oldLength
  let newRange := rangeText ((steps.head?.map (·.newAt)).getD 0) newLength
  s!"@@ -{oldRange} +{newRange} @@\n".toList :: steps.flatMap fun p => stepLines p.step

/-- The patch that turns one text into another; there is none between equal texts. -/
def unified (old new path : Text) : List Text :=
  match hunks (placed 0 0 (script (Text.rows old) (Text.rows new))) with
  | [] => []
  | hs =>
    ("--- ".toList ++ path ++ " (original)\n".toList) ::
      ("+++ ".toList ++ path ++ " (updated)\n".toList) :: hs.flatMap hunkLines

end Letterhead.Diff

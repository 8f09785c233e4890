import Letterhead.Text.Basic

/-
  Edit scripts: the steps that turn one list into another. The longest common run is kept, and the
  lists before and after it are treated in the same way. In a long list, entries that occur very
  often do not start a run, they only prolong one.
-/

namespace Letterhead.Diff

/-- A step of a script: entries that stay, or entries that give way to others. -/
inductive Step (α : Type) where
  | keep (entries : List α)
  | change (old new : List α)
  deriving DecidableEq, Repr

namespace Step

variable {α : Type}

/-- The entries that a step takes from the old list. -/
def old : Step α → List α
  | keep entries => entries
  | change old _ => old

/-- The entries that a step gives to the new list. -/
def new : Step α → List α
  | keep entries => entries
  | change _ new => new

end Step

variable {α : Type} [DecidableEq α]

/-! ## The longest common run -/

/-- A common run by its places in both lists. -/
structure Run where
  inOld : Nat := 0
  inNew : Nat := 0
  length : Nat := 0
  deriving DecidableEq, Repr

/-- The places where an entry stands in a list. -/
def placesOf (x : α) (list : List α) : List Nat :=
  (list.zipIdx.filter fun e => e.1 = x).map (·.2)

/-- Whether an entry with so many places in a list cannot start a run: in a list of two hundred
entries or more, that is one which makes up about one in a hundred. -/
def isCommon (length places : Nat) : Bool := 200 ≤ length && length / 100 + 1 < places

/-- The entries of the old list, each with the places in the new list at which it can start a
run. -/
def sited (old new : List α) : List (α × List Nat) :=
  old.map fun x =>
    let places := placesOf x new
    (x, if isCommon new.length places.length then [] else places)

/-- For each place of an entry in the new list, the length of the run that ends there, from the
places of the entry before it with their lengths. -/
def nextRow : List (Nat × Nat) → List Nat → List (Nat × Nat)
  | _, [] => []
  | [], j :: js => (j, 1) :: nextRow [] js
  | (i, n) :: row, j :: js =>
    if i + 1 < j then nextRow row (j :: js)
    else if i + 1 = j then (j, n + 1) :: nextRow row js
    else (j, 1) :: nextRow ((i, n) :: row) js
termination_by row js => row.length + js.length

/-- The longest run of a row, unless an earlier one is as long. The new list begins at `start`. -/
def improve (start oldEnd : Nat) (best : Run) (row : List (Nat × Nat)) : Run :=
  row.foldl (fun best (j, n) =>
    if best.length < n then ⟨oldEnd - n, j + 1 - n - start, n⟩ else best) best

/-- The longest run of entries that can start one, the earliest of equally long ones. The places of
the new list are those from `start` up to `stop`. -/
def seedFrom (start stop : Nat) : Nat → List (Nat × Nat) → Run → List (α × List Nat) → Run
  | _, _, best, [] => best
  | oldEnd, row, best, (_, places) :: old =>
    let row := nextRow row ((places.dropWhile (· < start)).takeWhile (· < stop))
    seedFrom start stop (oldEnd + 1) row (improve start oldEnd best row) old

/-- The length of the common beginning of two lists. -/
def sharedLength : List α → List α → Nat
  | x :: xs, y :: ys => if x = y then sharedLength xs ys + 1 else 0
  | _, _ => 0

/-- Prolong a run as far as the lists agree. -/
def prolonged (old new : List α) (r : Run) : Run :=
  let before := sharedLength (old.take r.inOld).reverse (new.take r.inNew).reverse
  let after := sharedLength (old.drop (r.inOld + r.length)) (new.drop (r.inNew + r.length))
  ⟨r.inOld - before, r.inNew - before, before + r.length + after⟩

/-- The common run that a script is built around. -/
def commonRun (old : List (α × List Nat)) (start : Nat) (new : List α) : Run :=
  prolonged (old.map (·.1)) new (seedFrom start (start + new.length) 1 [] {} old)

/-! ## Scripts -/

/-- The steps around common runs. The new list begins at `start`. -/
def stepsAround (old : List (α × List Nat)) (start : Nat) (new : List α) : List (Step α) :=
  let r := commonRun old start new
  if _h : 0 < r.length ∧ r.inOld + r.length ≤ old.length then
    let newEnd := r.inNew + r.length
    stepsAround (old.take r.inOld) start (new.take r.inNew) ++
      .keep ((new.drop r.inNew).take r.length) ::
        stepsAround (old.drop (r.inOld + r.length)) (start + newEnd) (new.drop newEnd)
  else if old.isEmpty && new.isEmpty then []
  else [.change (old.map (·.1)) new]
termination_by old.length
decreasing_by
  · have h := _h
    simp only [r] at h
    simp only [List.length_take]
    omega
  · have h := _h
    simp only [r] at h
    simp only [List.length_drop]
    omega

/-- Put neighbouring kept entries together. -/
def joinKept : List (Step α) → List (Step α)
  | [] => []
  | .keep xs :: steps =>
    match joinKept steps with
    | .keep ys :: rest => .keep (xs ++ ys) :: rest
    | rest => .keep xs :: rest
  | step :: steps => step :: joinKept steps

/-- The script that turns one list into another. -/
def script (old new : List α) : List (Step α) := joinKept (stepsAround (sited old new) 0 new)

end Letterhead.Diff

import Letterhead.Batch.Inputs
import Letterhead.Command.Screen
import Letterhead.Diff.Preview
import Letterhead.Project.Root

/-
  What a batch has to say on the screen: a line for each file that needs attention, or for every
  file when more output is wanted, and a summary that counts the verdicts.
-/

namespace Letterhead.Command

open Letterhead.Tree

/-- What is said about a file. -/
def describe (applies : Bool) (o : Outcome) : Text :=
  match o.event with
  | .failed cause => Ansi.marked [91] ("error: " ++ cause.message).toList
  | .skipped _ => Ansi.marked [33] "skipped (header not valid for its language)".toList
  | .changed c =>
    Styled.paint o.verdict
      (if applies then o.verdict.words else c.action.label ++ " needed").toList
  | .unfit _ | .upToDate _ => Styled.paint o.verdict o.verdict.words.toList

/-- Whether a file needs attention. -/
def isNotable (o : Outcome) : Bool :=
  o.verdict.isChange || o.isSkipped || o.error?.isSome

/-- The lines about a file, with the patch of its change if it is wanted. -/
def outcomeText (screen : Screen) (d : Disk) (applies showsDiff : Bool) (o : Outcome) :
    Except PathError Text := do
  let path := (← relativePath d o.path none).toText
  return screen.line (path ++ ": ".toList ++ describe applies o) ++
    match showsDiff, o.change? with
    | true, some c => screen.shown (Diff.preview (Diff.unified c.before c.updated path) false)
    | _, _ => []

/-- The lines about files, up to one that has no path to show. -/
def linesText (text : Outcome → Except PathError Text) : List Outcome → Text × Option PathError
  | [] => ([], none)
  | o :: os =>
    match text o with
    | .error cause => ([], some cause)
    | .ok s =>
      let (more, cause?) := linesText text os
      (s ++ more, cause?)

/-- The lines about all files. -/
def outcomesText (screen : Screen) (applies showsDiff : Bool) (b : Batch) :
    Text × Option PathError :=
  if screen.verbosity < 0 then ([], none)
  else
    linesText (outcomeText screen b.disk applies showsDiff)
      (b.outcomes.filter fun o => isNotable o || 0 < screen.verbosity)

/-- A number with what it counts. -/
def counted (n : Nat) (what : String) : Text := (toString n ++ " " ++ what).toList

/-- The counts of a batch: how many files got each verdict that is a change, how many are as they
were, and how many could not be written. -/
def counts (b : Batch) : List Text :=
  let verdicts := b.outcomes.map Outcome.verdict
  let changes := (Choice.all : List Verdict).filter fun v => v.isChange && verdicts.contains v
  let unchanged := verdicts.countP fun v => !v.isChange
  changes.map (fun v => counted (verdicts.count v) v.words) ++ [counted unchanged "unchanged"] ++
    if b.failed = [] then [] else [counted b.failed.length "failed"]

/-- The summary of a batch. -/
def summaryText (screen : Screen) (applies : Bool) (b : Batch) : Text :=
  if screen.verbosity < -1 then []
  else
    screen.line (screen.bold (counted b.outcomes.length "file(s) processed" ++
      (if applies then [] else " (dry run)".toList) ++ ": ".toList ++
      Text.joinWith ", ".toList (counts b)))

end Letterhead.Command

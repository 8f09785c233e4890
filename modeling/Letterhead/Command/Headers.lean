import Letterhead.Command.Session
import Letterhead.Command.Summary

/-
  The commands that add or remove headers. They run a batch over their inputs, which is a dry run
  unless changes are to be applied, and tell by the exit code whether anything is left to do.
-/

namespace Letterhead.Command

open Letterhead.Tree

/-- The remarks of a batch and its dialogue, as the screen shows them. -/
def batchOutput (screen : Screen) (b : Batch) : Output where
  out := b.dialogue.transcript
  err := b.remarks.flatMap screen.remark

/-- The exit code of a finished batch. -/
def exitCode (applies : Bool) (b : Batch) : ExitCode :=
  if !applies && b.changed ≠ [] then .wouldChange
  else if b.failed ≠ [] then .ioError
  else .success

/-- The report of a batch that ran to its end. -/
def finalReport (screen : Screen) (o : Options) (b : Batch) : Report :=
  let output := batchOutput screen b
  let (lines, cause?) := outcomesText screen o.applies o.showsDiff b
  match cause? with
  | some cause =>
    .ofError screen b.disk { output with out := output.out ++ lines } (.fault (.batch (.noPlace cause)))
  | none =>
    let text := lines ++ summaryText screen o.applies b
    let late := if b.interrupted then
        screen.warning "Interrupted: not all files were processed."
      else []
    { exit := (exitCode o.applies b).number
      output := ⟨output.out ++ text, output.err ++ late⟩
      disk := b.disk }

/-- Run a job over inputs and report on it; `closing` are notices at the end of the batch. -/
def runJob (s : Session) (screen : Screen) (o : Options) (j : Job) (t : Templates)
    (inputs : List Path) (notices : List Notice) (closing : Batch → List Notice) : Report :=
  let start : Batch := { disk := s.disk, dialogue := { input := s.input, styled := screen.colored } }
  let b := (start.note notices).processInputs j t inputs
  match b.fault with
  | some cause => .ofError screen b.disk (batchOutput screen b) (.fault (.batch cause))
  | none =>
    if b.aborted then
      let output := batchOutput screen b
      { exit := ExitCode.failure.number
        output := { output with err := output.err ++ "Aborted!\n".toList }
        disk := b.disk
        lacksInput := true }
    else finalReport screen o (b.note (closing b))

/-- Run a command over its inputs: read the configuration, find where templates come from, and run
the job. -/
def runHeaders (s : Session) (screen : Screen) (o : Options) (args : List Text)
    (overrides : Overrides) (templates : Config → Except CommandError Templates)
    (closing : Batch → List Notice) : Report :=
  let early := fun (notices : List Notice) => 
    Report.ofError screen s.disk ⟨[], Log.lines screen.threshold notices⟩
  match inputPaths s.disk args with
  | .error e => early [] (.failed .fileNotFound e.message)
  | .ok inputs =>
    match s.config inputs o (some overrides) with
    | .error e => early [] e
    | .ok config =>
      match templates config with
      | .error e => early [] e
      | .ok t =>
        match s.job o config inputs with
        | (.error e, notices) => early notices e
        | (.ok j, notices) => runJob s screen o j t inputs notices closing

/-- Add or replace headers. -/
def check (s : Session) (screen : Screen) (o : Options) (args : List Text) : Report :=
  let overrides := { (keywordOverrides? o.usesKeywords o.keywords).getD {} with
    excludePatterns := o.excludes
    projectName := o.projectName }
  let templates := fun (c : Config) =>
    match o.definition with
    | none => .ok .nearest
    | some path =>
      ((DefinitionSet.load s.disk path c.encoding s.host).map Templates.given).mapError fun e =>
        if e.isFault then CommandError.fault (.batch (.definitions e))
        else .failed .configError e.message
  runHeaders s screen o args overrides templates fun b =>
    [.info s!"{b.used} definition file(s) found while walking"]

/-- Remove headers. -/
def strip (s : Session) (screen : Screen) (o : Options) (args : List Text) : Report :=
  let overrides := { (keywordOverrides? o.usesKeywords o.keywords).getD {} with
    excludePatterns := o.excludes }
  runHeaders s screen o args overrides (fun _ => .ok .none) fun _ => []

end Letterhead.Command

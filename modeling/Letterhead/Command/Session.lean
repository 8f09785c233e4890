import Letterhead.Batch.Inputs
import Letterhead.Command.ExitCode
import Letterhead.Command.Options
import Letterhead.Command.Screen
import Letterhead.Config.File
import Letterhead.Language.Entry
import Letterhead.Project.Root
import Letterhead.Toml.Printer

/-
  Sessions: the surroundings in which a command runs, and what commands have in common: reading the
  configuration, the languages and the exclusions. A command fails with a message and an exit code,
  or with a fault that nothing in it accounts for.
-/

namespace Letterhead.Command

open Letterhead.Tree

/-- The surroundings of a command. -/
structure Session where
  disk : Disk
  environment : List (Text × Text) := []
  terminal : Bool := false
  input : List Text := []
  now : Moment
  user : Option Text := none
  created : Path → Option Moment := fun _ => none
  readRefusal : Path → Option String := fun _ => none
  writeRefusal : Path → Option String := fun _ => none
  interruptsAfterWrite : Bool := false
  host : Host := {}
  parse : Toml.Reader := Toml.read

/-- The value of a variable of the environment. -/
def Session.valueOf? (s : Session) (name : String) : Option Text :=
  s.environment.lookup name.toList

/-- Faults that no command accounts for. -/
inductive CommandFault where
  | config (cause : ConfigError)
  | glob (cause : GlobError)
  | write (cause : Toml.WriteError)
  | level (cause : BadLevel)
  | entry (cause : EntryError)
  | batch (cause : BatchFault)

def CommandFault.message : CommandFault → String
  | config cause => cause.message
  | glob cause => cause.message
  | write cause => cause.message
  | level cause => cause.message
  | entry cause => (cause.fault?.map (·.message)).getD cause.message
  | batch cause => cause.message

/-- Why a command ends early. -/
inductive CommandError where
  | failed (code : ExitCode) (message : String)
  | fault (cause : CommandFault)

/-- A step of a command, with the notices about it. -/
abbrev Step (α : Type) := Except CommandError α × List Notice

/-- Read the configuration for inputs. -/
def Session.config (s : Session) (inputs : List Path) (o : Options)
    (overrides? : Option Overrides) : Except CommandError Config :=
  match loadMerged s.disk inputs o.configFiles o.discovers s.parse with
  | .ok draft =>
    .ok (match overrides? with
      | some overrides => draft.override overrides
      | none => draft).freeze
  | .error cause =>
    .error (if cause.isFault then .fault (.config cause) else .failed .configError cause.message)

/-- The languages of a configuration. -/
def languagesOf (c : Config) : Step LanguageTable :=
  let (result, notices) := LanguageTable.builtIn.addEntries c.languages
  (result.mapError fun cause =>
    if cause.isFault then .fault (.entry cause)
    else .failed .configError ("Invalid language definition: " ++ cause.message), notices)

/-- The names that lead to the root of a run over inputs. -/
def Session.root (s : Session) (o : Options) (inputs : List Path) :
    Except CommandError (List Text) := do
  let noPath := fun (e : PathError) => CommandError.fault (.batch (.noPlace e))
  let root ← (projectRoot s.disk o.root inputs).mapError noPath
  (s.disk.resolve root).mapError noPath

/-- The job of a run over inputs. -/
def Session.job (s : Session) (o : Options) (c : Config) (inputs : List Path) : Step Job :=
  let (languages, notices) := languagesOf c
  let job : Except CommandError Job := do
    let languages ← languages
    let root ← s.root o inputs
    let exclusions ← (Exclusion.ofLines c.excludePatterns).mapError fun e =>
      CommandError.fault (.glob e)
    return {
      languages
      config := c
      root := some root
      exclusions
      now := s.now
      user := s.user
      created := s.created
      applies := o.applies
      decider := decider o.onInvalid
      interruptsAfterWrite := s.interruptsAfterWrite
      readRefusal := s.readRefusal
      writeRefusal := s.writeRefusal
      host := s.host }
  (job, notices)

/-- How a command ends: the exit code, what it wrote, the tree after it, the fault that ended it, if
one did, and whether it ended because a question got no answer. -/
structure Report where
  exit : Nat
  output : Output
  disk : Disk
  fault : Option CommandFault := none
  lacksInput : Bool := false

/-- The report of a command that did its work. -/
def Report.success (d : Disk) (output : Output) : Report where
  exit := ExitCode.success.number
  output
  disk := d

/-- The report of a command that ends early. -/
def Report.ofError (screen : Screen) (d : Disk) (output : Output) : CommandError → Report
  | .failed code message =>
    { exit := code.number
      output := { output with err := output.err ++ screen.line ("Error: " ++ message).toList }
      disk := d }
  | .fault cause => { exit := ExitCode.failure.number, output, disk := d, fault := some cause }

end Letterhead.Command

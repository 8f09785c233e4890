import Letterhead.Batch.Job
import Letterhead.Command.Argument

/-
  The options of the commands: their names, the checks of their values, and what they amount to.
  Of several faults the one in the option that was given first counts; a request for help and a
  misspelt option come before all others.
-/

namespace Letterhead

open Letterhead.Tree

/-- When to write in colour. -/
inductive ColorMode where
  | auto
  | always
  | never
  deriving DecidableEq, Repr

instance : Choice ColorMode where
  all := [.auto, .always, .never]
  label
    | .auto => "auto"
    | .always => "always"
    | .never => "never"

namespace Command

/-- What is wrong with a command line. -/
inductive UsageError where
  | argument (cause : ArgumentError)
  | misspelt (name : Text)
  | badChoice (name : Text) (cause : BadChoice)
  | noSuchPath (name kind value : Text)
  | wrongKind (name kind value found : Text)
  | unknownCommand (name : Text)
  | unexpected (args : List Text)
  deriving DecidableEq, Repr

namespace UsageError

/-- A fault in the value of an option. -/
def invalidValue (name : Text) (reason : String) : String :=
  "Invalid value for '" ++ String.ofList name ++ "': " ++ reason

def message : UsageError → String
  | argument cause => cause.message
  | misspelt name =>
    let correct := name.map fun c => if c = '_' then '-' else c
    "Unknown option: " ++ String.ofList name ++ ". Did you mean " ++ String.ofList correct ++ "?"
  | badChoice name cause => invalidValue name cause.message
  | noSuchPath name kind value =>
    invalidValue name (String.ofList kind ++ " " ++ value.quotedString ++ " does not exist.")
  | wrongKind name kind value found =>
    invalidValue name
      (String.ofList kind ++ " " ++ value.quotedString ++ " is a " ++ String.ofList found ++ ".")
  | unknownCommand name => "No such command " ++ name.quotedString ++ "."
  | unexpected args =>
    "Got unexpected extra argument" ++ (if args.length = 1 then "" else "s") ++ " (" ++
      String.ofList (Text.joinWith [' '] args) ++ ")"

/-- Whether the message comes with the usage of the command. -/
def showsUsage : UsageError → Bool
  | argument (.noValue _) | argument (.unwantedValue _) => false
  | _ => true

end UsageError

/-! ## Options of all commands together -/

/-- The options that come before the command. -/
inductive GroupOption where
  | verbose
  | quiet
  | color
  | noColor
  | help
  deriving DecidableEq, Repr

/-- The options of a command. -/
inductive CommandOption where
  | noConfig
  | config
  | apply
  | diff
  | root
  | exclude
  | onInvalid
  | keyword
  | noKeywords
  | definition
  | projectName
  | misspelt (name : Text)
  | help
  deriving DecidableEq, Repr

/-- An option with the given names. -/
def option {α : Type} (names : List String) (takesValue : Bool) (key : α) : OptionSpec α :=
  ⟨names.map String.toList, takesValue, key⟩

def groupOptions : List (OptionSpec GroupOption) := [
  option ["-v", "--verbose"] false .verbose,
  option ["-q", "--quiet"] false .quiet,
  option ["--color"] true .color,
  option ["--no-color"] false .noColor,
  option ["-h", "--help"] false .help]

def helpOption : OptionSpec CommandOption := option ["-h", "--help"] false .help

/-- A spelling with underscores, which is told apart to be explained. -/
def misspeltOption (name : String) : OptionSpec CommandOption :=
  option [name] true (.misspelt name.toList)

def configOptions : List (OptionSpec CommandOption) := [
  option ["--no-config"] false .noConfig,
  option ["--config"] true .config,
  misspeltOption "--no_config"]

def runOptions : List (OptionSpec CommandOption) := [
  option ["--apply"] false .apply,
  option ["--diff"] false .diff,
  option ["--root"] true .root,
  option ["--exclude", "-e"] true .exclude,
  option ["--on-invalid"] true .onInvalid,
  misspeltOption "--on_invalid"]

def keywordOptions : List (OptionSpec CommandOption) := [
  option ["--keyword", "-k"] true .keyword,
  option ["--no-keywords"] false .noKeywords,
  misspeltOption "--no_keywords"]

def templateOptions : List (OptionSpec CommandOption) := [
  option ["--definition"] true .definition,
  option ["--project-name"] true .projectName]

/-! ## Values -/

/-- What the options of a command amount to. -/
structure Options where
  discovers : Bool := true
  configFiles : List Path := []
  applies : Bool := false
  showsDiff : Bool := false
  root : Option Path := none
  excludes : List Text := []
  onInvalid : Option InvalidPolicy := none
  keywords : List Text := []
  usesKeywords : Bool := true
  definition : Option Path := none
  projectName : Option Text := none
  showsHelp : Bool := false

/-- Whether a value can only name a directory: it ends with a slash, or with a point for the
directory itself. -/
def namesDirectory (value : Text) : Bool :=
  let last := value.reverse.takeWhile (· != '/')
  last == [] || last == ['.']

/-- Whether a value names something that can be opened. -/
def pathExists (d : Disk) (value : Text) : Bool :=
  value != [] && d.exists? (.ofText value) &&
    (!namesDirectory value || d.isDir (.ofText value))

/-- The file that an option names. -/
def readFile (d : Disk) (name value : Text) : Except UsageError Path :=
  if !pathExists d value then .error (.noSuchPath name "File".toList value)
  else if d.isDir (.ofText value) then
    .error (.wrongKind name "File".toList value "directory".toList)
  else .ok (.ofText value)

/-- The directory that an option names. -/
def readDirectory (d : Disk) (name value : Text) : Except UsageError Path :=
  if !pathExists d value then .error (.noSuchPath name "Directory".toList value)
  else if d.isFile (.ofText value) then
    .error (.wrongKind name "Directory".toList value "file".toList)
  else .ok (.ofText value)

/-- The values given for an option. -/
def valuesOf {α : Type} [DecidableEq α] (key : α) (given : List (Given α)) : List Text :=
  (given.filter fun g => g.key = key).map (·.value)

/-- Take the values of one option in. An option that holds one value keeps the last. -/
def takeOption (d : Disk) (given : List (Given CommandOption)) (o : Options) (key : CommandOption) :
    Except UsageError Options :=
  let values := valuesOf key given
  let last := values.getLast?.getD []
  match key with
  | .noConfig => .ok { o with discovers := false }
  | .config => do
    return { o with configFiles := ← values.mapM (readFile d "--config".toList) }
  | .apply => .ok { o with applies := true }
  | .diff => .ok { o with showsDiff := true }
  | .root => do return { o with root := some (← readDirectory d "--root".toList last) }
  | .exclude => .ok { o with excludes := values }
  | .onInvalid => do
    return { o with
      onInvalid := some
        (← (Choice.ofText InvalidPolicy last).mapError (.badChoice "--on-invalid".toList)) }
  | .keyword => .ok { o with keywords := values }
  | .noKeywords => .ok { o with usesKeywords := false }
  | .definition => do
    return { o with definition := some (← readFile d "--definition".toList last) }
  | .projectName => .ok { o with projectName := some last }
  | .misspelt name => .error (.misspelt name)
  | .help => .ok { o with showsHelp := true }

/-- Whether an option comes before all others. -/
def CommandOption.isEager : CommandOption → Bool
  | .misspelt _ | .help => true
  | _ => false

/-- Take options in, one after the other. A request for help ends this. -/
def takeOptions (d : Disk) (given : List (Given CommandOption)) (o : Options) :
    List CommandOption → Except UsageError Options
  | [] => .ok o
  | key :: keys => do
    let o ← takeOption d given o key
    if o.showsHelp then return o
    takeOptions d given o keys

/-- Read the arguments of a command; `takesPaths` tells whether it has others than options. -/
def readCommand (d : Disk) (specs : List (OptionSpec CommandOption)) (takesPaths : Bool)
    (args : List Text) : Except UsageError (Options × List Text) := do
  let (given, others) ← (readArguments (helpOption :: specs) true args).mapError .argument
  let keys := (given.map (·.key)).eraseDups
  let (eager, rest) := keys.partition CommandOption.isEager
  let o ← takeOptions d given {} (eager ++ rest)
  if !o.showsHelp && !takesPaths && others ≠ [] then .error (.unexpected others)
  return (o, others)

/-! ## Options before the command -/

/-- What the options before the command amount to. -/
structure Group where
  verbose : Nat := 0
  quiet : Nat := 0
  color : Option ColorMode := none
  showsHelp : Bool := false

/-- Read the options before the command, and leave the rest. -/
def readGroup (args : List Text) : Except UsageError (Group × List Text) := do
  let (given, rest) ← (readArguments groupOptions false args).mapError .argument
  let count := fun key => (valuesOf key given).length
  if count .help ≠ 0 then return ({ showsHelp := true }, rest)
  let color ← (valuesOf .color given).getLast?.mapM fun s =>
    (Choice.ofText ColorMode s).mapError (.badChoice "--color".toList)
  return ({
    verbose := count .verbose
    quiet := count .quiet
    color := if count .noColor ≠ 0 then some .never else color }, rest)

/-- Both more and less output was asked for. -/
inductive VerbosityError where
  | bothWays
  deriving DecidableEq, Repr

def VerbosityError.message : VerbosityError → String
  | bothWays => "The '--verbose' and '--quiet' options are mutually exclusive."

/-- How much output is wanted: more than usual above zero, less below. -/
def verbosity (verbose quiet : Int) : Except VerbosityError Int :=
  if 0 < verbose ∧ 0 < quiet then .error .bothWays
  else .ok (if 0 < quiet then -quiet else verbose)

/-- Whether to write in colour: as the mode says, else as the environment says, else for a
terminal. -/
def usesColor (mode : Option ColorMode) (forceColor noColor : Option Text) (terminal : Bool) :
    Bool :=
  match mode with
  | some .always => true
  | some .never => false
  | _ =>
    if forceColor.any fun s => s ≠ [] ∧ s ≠ ['0'] then true
    else if noColor.isSome then false
    else terminal

/-! ## Overrides and decisions -/

/-- What the keyword options set, if anything: no keywords at all, or other ones. -/
def keywordOverrides? (usesKeywords : Bool) (keywords : List Text) : Option Overrides :=
  if !usesKeywords then some { useKeywords := some false }
  else if keywords ≠ [] then some { keywords }
  else none

/-- Who decides about headers that are not valid under a policy. Without one they are left alone. -/
def decider : Option InvalidPolicy → Decider
  | some .ask => .user
  | some .replace => .rule fun _ => true
  | some .skip | none => .rule fun _ => false

end Command
end Letterhead

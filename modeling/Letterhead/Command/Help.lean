import Letterhead.Command.Options

/-
  What the command line says about itself: the commands, how each is used, and the help pages.
-/

namespace Letterhead.Command

/-- The commands. -/
inductive CommandName where
  | check
  | dumpConfig
  | languages
  | strip
  | version
  deriving DecidableEq, Repr

instance : Choice CommandName where
  all := [.check, .dumpConfig, .languages, .strip, .version]
  label
    | .check => "check"
    | .dumpConfig => "dump-config"
    | .languages => "languages"
    | .strip => "strip"
    | .version => "version"

namespace CommandName

/-- The command of a name. -/
def ofText? (s : Text) : Option CommandName :=
  (Choice.all : List CommandName).find? fun c => (Choice.label c).toList == s

/-- The options of a command. -/
def options : CommandName → List (OptionSpec CommandOption)
  | check => configOptions ++ runOptions ++ keywordOptions ++ templateOptions
  | strip => configOptions ++ runOptions ++ keywordOptions
  | dumpConfig => configOptions ++ keywordOptions
  | languages => configOptions
  | version => []

/-- Whether a command works on paths. -/
def takesPaths : CommandName → Bool
  | check | strip => true
  | _ => false

/-- What a command does. -/
def purpose : CommandName → String
  | check => "Check license headers (dry run). Use --apply to add or replace them."
  | dumpConfig => "Print the merged LicenseMark configuration as TOML."
  | languages => "List the supported languages and their comment syntax."
  | strip => "Remove license headers (dry run). Use --apply to write the changes."
  | version => "Show the current version of LicenseMark."

end CommandName

/-- The name of the program. -/
def programName : String := "licensemark"

/-- The words before the arguments of a command, or of the program as a whole. -/
def commandPath (c : Option CommandName) : String :=
  match c with
  | none => programName
  | some c => programName ++ " " ++ Choice.label c

/-- How a command, or the program, is used. -/
def usage (c : Option CommandName) : String :=
  "Usage: " ++ commandPath c ++ " [OPTIONS]" ++
    match c with
    | none => " [COMMAND] [ARGS]..."
    | some c => if c.takesPaths then " [PATHS]..." else ""

/-- What is written about a faulty command line. -/
def usageErrorText (c : Option CommandName) (e : UsageError) : Text :=
  let hint := usage c ++ "\nTry '" ++ commandPath c ++ " --help' for help.\n\n"
  ((if e.showsUsage then hint else "") ++ "Error: " ++ e.message ++ "\n").toList

/-- The help page of the program. -/
def programHelp : Text :=
  (usage none ++ "\n" ++ "
  LicenseMark: insert, replace or remove license headers in source files.

Options:
  -q, --quiet                  Show less output (summary only with -q, nothing
                               with -qq).
  -v, --verbose                Show more output (every file visited with -v).
  --no-color                   Disable color output (equivalent to
                               --color=never).
  --color [auto|always|never]  Color output: auto (default), always, or never.
  -h, --help                   Show this message and exit.

Commands:
  check        Check license headers (dry run).
  dump-config  Print the merged LicenseMark configuration as TOML.
  languages    List the supported languages and their comment syntax.
  strip        Remove license headers (dry run).
  version      Show the current version of LicenseMark.").toList

/-- The help page of a command. -/
def commandHelp (c : CommandName) : Text :=
  let names := fun (s : OptionSpec CommandOption) => "  ".toList ++
    Text.joinWith ", ".toList s.names ++ (if s.takesValue then " VALUE".toList else [])
  let shown := (c.options ++ [helpOption]).filter fun s =>
    match s.key with
    | .misspelt _ => false
    | _ => true
  (usage (some c) ++ "\n\n  " ++ c.purpose ++ "\n\nOptions:\n").toList ++
    Text.joinWith ['\n'] (shown.map names)

end Letterhead.Command

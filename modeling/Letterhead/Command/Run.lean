import Letterhead.Command.Headers
import Letterhead.Command.Help
import Letterhead.Command.Listing

/-
  Running a command line: the options before the command set up the screen, and the command does
  the rest. A command line without a command shows what commands there are.
-/

namespace Letterhead.Command

/-- The screen that the options before the command ask for. -/
def Session.screen (s : Session) (g : Group) : Except CommandError Screen := do
  let verbosity ← (verbosity g.verbose g.quiet).mapError fun e =>
    CommandError.failed .usageError e.message
  let threshold ← match s.valueOf? "LICENSEMARK_LOG_LEVEL" with
    | none => pure none
    | some level => (Level.ofText level).mapError fun e => CommandError.fault (.level e)
  return {
    verbosity
    threshold := threshold.getD Log.defaultThreshold
    colored := usesColor g.color (s.valueOf? "FORCE_COLOR") (s.valueOf? "NO_COLOR") s.terminal }

/-- The screen before the options for it have been read: it leaves texts as they are. -/
def firstScreen : Screen where
  verbosity := 0
  colored := true
  threshold := Log.defaultThreshold

/-- The report on a faulty command line. -/
def usageReport (s : Session) (screen : Screen) (c : Option CommandName) (e : UsageError) :
    Report where
  exit := ExitCode.badCommandLine
  output := { err := screen.shown (usageErrorText c e) }
  disk := s.disk

/-- Run a command with its arguments. -/
def runCommand (s : Session) (screen : Screen) (c : CommandName) (args : List Text) : Report :=
  match readCommand s.disk c.options c.takesPaths args with
  | .error e => usageReport s screen (some c) e
  | .ok (o, paths) =>
    if o.showsHelp then .success s.disk { out := screen.line (commandHelp c) }
    else
      match c with
      | .check => check s screen o paths
      | .strip => strip s screen o paths
      | .languages => languages s screen o
      | .dumpConfig => dumpConfig s screen o
      | .version => showVersion s screen

/-- The report on the help page of the program. -/
def helpReport (s : Session) : Report := .success s.disk { out := programHelp ++ ['\n'] }

/-- The report on a command that does not exist. What was given for it can follow two dashes; it is
read once more as if it did not, so that options in it count before the command. -/
def unknownReport (s : Session) (args : List Text) : Report :=
  match readGroup args with
  | .error e => usageReport s firstScreen none e
  | .ok (g, _) =>
    if g.showsHelp then helpReport s
    else usageReport s firstScreen none (.unknownCommand (args.head?.getD []))

/-- What is shown when no command is given. -/
def welcome (screen : Screen) : Text :=
  screen.line "Hint: use 'licensemark check [PATHS...]' to add or update headers.".toList ++
    screen.line [] ++ screen.line programHelp

/-- Run a command line. -/
def run (s : Session) (args : List Text) : Report :=
  match readGroup args with
  | .error e => usageReport s firstScreen none e
  | .ok (g, rest) =>
    if g.showsHelp then helpReport s
    else
      match rest.head?.map CommandName.ofText? with
      | some none => unknownReport s rest
      | found =>
        match s.screen g with
        | .error e => .ofError firstScreen s.disk {} e
        | .ok screen =>
          match found.join with
          | some c => runCommand s screen c rest.tail
          | none => .success s.disk { out := welcome screen }

end Letterhead.Command

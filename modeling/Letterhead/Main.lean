import Letterhead.Command.Run
import Letterhead.Tree.Change
import Std.Time.Zoned

/-
  The program. A command runs on a tree of files that is read before, and what it changes is written
  afterwards. The files are those that `LETTERHEAD_FILES` lists, one path a line, or else those that
  the arguments name. A question is put to the user as soon as the command comes to it.
-/

namespace Letterhead.Command

/-- The variables of the environment that commands look at. -/
def screenVariables : List String := ["FORCE_COLOR", "NO_COLOR", "LICENSEMARK_LOG_LEVEL"]

/-- The variables that can hold the name of the user, the most important one first. -/
def userVariables : List String := ["LOGNAME", "USER", "LNAME", "USERNAME"]

/-- The variables that are set, with their values. -/
def environmentOf (names : List String) : IO (List (Text × Text)) :=
  names.filterMapM fun name => do
    return (← IO.getEnv name).map fun value => (name.toList, value.toList)

/-- The paths of the files that a command can see. -/
def visibleFiles (args : List String) : IO (List Text) := do
  match ← IO.getEnv "LETTERHEAD_FILES" with
  | some listing => return Text.lines (← IO.FS.readFile listing).toList
  | none => return args.map String.toList

/-- The bytes of a file, if it can be read. -/
def readBytes? (p : Path) : IO (Option Tree.Bytes) := do
  try
    return some (← IO.FS.readBinFile p.toString).toList
  catch _ => return none

/-- The tree of the files at paths that start in a directory. -/
def readTree (cwd : Path) (paths : List Text) : IO Tree.Disk := do
  let files ← paths.filterMapM fun path => do
    let p := cwd.join (.ofText path)
    return (← readBytes? p).map fun bytes => (p.parts, bytes)
  let root := Tree.Node.ofFiles files
  return { root := root.put cwd.parts ((root.at? cwd.parts).getD (.dir [])), cwd := cwd.parts }

/-- Write the files that differ between two trees. -/
def writeChanges (before after : Tree.Disk) : IO Unit := do
  for change in before.root.changes after.root do
    if let some bytes := change.bytes? then
      IO.FS.writeBinFile (Path.ofNames change.names).toString ⟨bytes.toArray⟩

/-- Run a command, with a line of input for each question it asks. The first `shown` characters of
its output are on the screen already. -/
partial def converse (s : Session) (args : List Text) (shown : Nat) : IO Report := do
  let report := run s args
  let stdout ← IO.getStdout
  stdout.putStr (String.ofList (report.output.out.drop shown))
  stdout.flush
  if report.lacksInput then
    let line ← (← IO.getStdin).getLine
    if line.isEmpty then return report
    let answer := (Text.lines line.toList).flatten
    converse { s with input := s.input ++ [answer] } args (report.output.out.length + answer.length + 1)
  else return report

end Letterhead.Command

open Letterhead Letterhead.Command in
/-- The command line: the tree is read, the command runs, and what it changed is written. -/
def main (args : List String) : IO UInt32 := do
  let cwd := Path.ofText ((← IO.getEnv "PWD").getD "/").toList
  let disk ← readTree cwd (← visibleFiles args)
  let now ← Std.Time.PlainDateTime.now
  let session : Session := {
    disk
    environment := ← environmentOf screenVariables
    terminal := ← (← IO.getStdout).isTty
    now := ⟨now.year.toInt.toNat, now.month.val.toNat, now.day.val.toNat, now.hour.val.toNat,
      now.minute.val.toNat, now.second.val.toNat⟩
    user := (← environmentOf userVariables).head?.map (·.2) }
  let report ← converse session (args.map String.toList) 0
  writeChanges disk report.disk
  let stderr ← IO.getStderr
  stderr.putStr (String.ofList report.output.err)
  if let some fault := report.fault then stderr.putStrLn fault.message
  return report.exit.toUInt32

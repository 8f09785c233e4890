import Letterhead.Batch.Outcome
import Letterhead.Buffer.File
import Letterhead.Config.Draft
import Letterhead.Definition.Scope
import Letterhead.Glob.Exclusion
import Letterhead.Header.Rule
import Letterhead.Language.Table

/-
  Jobs: all that a batch is told and that stays the same while it runs. A job opens a file as a
  document with the header rule that applies to it.
-/

namespace Letterhead

open Letterhead.Tree

/-- Who decides whether a header that is not valid is written all the same: a rule, which sees the
extension of the file, or the user. -/
inductive Decider where
  | rule (agrees : Text → Bool)
  | user

/-- What a batch is told. The names of the root lead to it without links. The exclusions decide
which paths are left out, and the number of outcomes when the batch is cancelled. Reading or writing
a file can be refused for reasons outside the tree. -/
structure Job where
  languages : LanguageTable
  config : Config
  root : Option (List Text)
  exclusions : List Exclusion
  leavesOut : Text → Bool := Exclusion.leaveOut exclusions
  now : Moment
  user : Option Text
  created : Path → Option Moment
  applies : Bool
  decider : Decider
  cancelAfter : Option Nat := none
  cancels : Nat → Bool := fun n => cancelAfter.any fun m => m ≤ n
  interruptsAfterWrite : Bool := false
  readRefusal : Path → Option String := fun _ => none
  writeRefusal : Path → Option String := fun _ => none
  host : Host := {}

/-- A text file that a header rule applies to. -/
structure Document where
  file : TextFile
  language : Language
  rule : HeaderRule

namespace Job

/-- The name of the project: the configured one, else that of the root. -/
def projectName (j : Job) : Option Text :=
  match j.config.projectName with
  | some name => some name
  | none => j.root.bind List.getLast?

/-- A path as exclusions see it: from the root on where there is one, and with a slash at the end
of a directory. -/
def exclusionPath (j : Job) (d : Disk) (p : Path) : Except PathError Text := do
  let names ← d.resolve p
  let seen := match j.root with
    | none => p
    | some root =>
      match Path.below? root names with
      | some rest => .ofRelative rest
      | none => .ofNames names
  return seen.toText ++ if d.isDir p then ['/'] else []

/-- Whether a path is to be left out. -/
def excludes (j : Job) (d : Disk) (p : Path) : Except PathError Bool :=
  if j.config.excludePatterns = [] then .ok false
  else (j.exclusionPath d p).map j.leavesOut

/-- What is known about a file. -/
def facts (j : Job) (d : Disk) (p : Path) : Template.Facts where
  fullName := (d.canonical p).toOption.map Path.toText
  fileName := some p.name
  created := j.created p
  now := j.now
  user := j.user
  project := j.projectName

/-- Read the text of a file. -/
def readText (j : Job) (d : Disk) (p : Path) : Except FileError (Option TextFile) :=
  match j.readRefusal p with
  | some reason => .error (.refused reason)
  | none => (d.read p).mapError (.fault p) |>.map TextFile.ofBytes?

/-- The template for a file, or none for removing its header; without definitions headers are only
removed. -/
def template? (defs : Option DefinitionSet) (name : Text) : Except Unfit (Option (List Text)) :=
  match defs with
  | none => .ok none
  | some s =>
    if s.entries = [] then .error .noTemplate
    else
      match s.lookup? name with
      | none => .error .unknownLanguage
      | some lines => if lines.all Text.allBlank then .error .noTemplate else .ok (some lines)

/-- The document of a text file. -/
def document (j : Job) (d : Disk) (defs : Option DefinitionSet) (p : Path) (file : TextFile) :
    Except Unfit Document :=
  match j.languages.lookup? p.name with
  | none => .error .unknownLanguage
  | some language =>
    match template? defs p.name with
    | .error reason => .error reason
    | .ok lines =>
      .ok {
        file
        language
        rule := .ofTemplate language.style lines (Template.bindings (j.facts d p))
          (j.config.effectiveKeywords.getD []) (Text.dominantBreak file.text).text }

/-- Open a file as a document. -/
def openDocument (j : Job) (d : Disk) (defs : Option DefinitionSet) (p : Path) :
    Except Unfit Document × List Notice :=
  if !d.isFile p then (.error .notFile, [])
  else if isDefinitionPath p.toText then (.error .definitionFile, [])
  else
    match j.readText d p with
    | .error cause =>
      (.error .notText, [.warning s!"Cannot read {p.toString}: {cause.message}"])
    | .ok none => (.error .notText, [])
    | .ok (some file) => (j.document d defs p file, [])

end Job
end Letterhead

import Letterhead.Config.Draft
import Letterhead.Text.LineBreak
import Letterhead.Text.Utf8
import Letterhead.Toml.Document
import Letterhead.Tree.Disk

/-
  Configuration files. They are found by walking up from a path, in two kinds per directory: the
  settings in a section of a project file, and a file of their own. A file that declares itself the
  root ends the walk at its directory. What makes a table of a text is an argument of everything
  that reads files.
-/

namespace Letterhead

open Letterhead.Tree

/-- The name of a file that holds nothing but settings. -/
def configFileName : Text := "licensemark.toml".toList

/-- The name of a project file, and the keys of the section with settings. -/
def projectFileName : Text := "pyproject.toml".toList
def toolKey : Text := "tool".toList
def toolName : Text := "licensemark".toList

/-- Why settings cannot be loaded. -/
inductive ConfigError where
  | unreadable (path : Path) (fault : Fault)
  | undecodable (path : Path)
  | malformed (path : Path)
  | layout (cause : Toml.LayoutError)
  | noToolTable (value : Datum)
  | noPlace (cause : PathError)
  | field (path : Option Path) (cause : FieldError)

/-- Whether nothing accounts for the error: it is no fault in the settings themselves. -/
def ConfigError.isFault : ConfigError → Bool
  | undecodable _ | layout _ | noToolTable _ | noPlace _ => true
  | unreadable _ fault => fault == .nullCharacter
  | malformed _ => false
  | field _ cause => cause.isFault

def ConfigError.message : ConfigError → String
  | unreadable path fault =>
    (if fault == .nullCharacter then "" else "Error loading TOML from " ++ path.toString ++ ": ") ++
      fault.message path
  | undecodable _ => "not valid in its encoding"
  | malformed path => "Error decoding TOML from " ++ path.toString ++ ": not well-formed"
  | layout cause => cause.message
  | noToolTable value => "'" ++ value.fullKind ++ "' object has no attribute 'get'"
  | noPlace cause => cause.message
  | field path cause =>
    match path.filter fun _ => !cause.isFault with
    | some path => path.toString ++ ": " ++ cause.message
    | none => cause.message

/-- The text of bytes, in which every line break counts as LF. -/
def textOf? (bytes : Bytes) : Option Text :=
  (Utf8.decode? bytes).map (Text.setLineBreaks ['\n'])

/-- Read the table of a file. -/
def loadTable (d : Disk) (p : Path) (parse : Toml.Reader := Toml.read) :
    Except ConfigError Table :=
  match d.read p with
  | .error fault => .error (.unreadable p fault)
  | .ok bytes =>
    match textOf? bytes with
    | none => .error (.undecodable p)
    | some s =>
      (parse s).mapError fun
        | .malformed => .malformed p
        | .layout cause => .layout cause

/-- The settings in the table of a project file. -/
def toolSection? (t : Table) : Except ConfigError (Option Table) :=
  match t.lookup toolKey with
  | none => .ok none
  | some (.table tools) => .ok ((tools.lookup toolName).bind Datum.table?)
  | some d => .error (.noToolTable d)

/-- The settings in the table of a file; a project file need not have any. -/
def settings? (p : Path) (t : Table) : Except ConfigError (Option Table) :=
  if p.name = projectFileName then toolSection? t else .ok (some t)

/-- Read the draft of a file. -/
def loadDraft (d : Disk) (p : Path) (parse : Toml.Reader := Toml.read) :
    Except ConfigError (Option Draft) := do
  match ← settings? p (← loadTable d p parse) with
  | none => return none
  | some t =>
    let draft ← (Draft.ofTable t).mapError (.field (some p))
    return some { draft with sources := [.file p] }

/-! ## Discovery -/

/-- Whether a file holds settings, and whether it ends the walk. A file that cannot be opened or
read as TOML is taken for one with settings; loading it will tell. -/
def inspectFile (d : Disk) (p : Path) (parse : Toml.Reader := Toml.read) :
    Except ConfigError (Bool × Bool) :=
  if !d.isFile p then .ok (false, false)
  else
    match loadTable d p parse with
    | .error e => if e.isFault then .error e else .ok (true, false)
    | .ok t => do
      match ← settings? p t with
      | none => return (false, false)
      | some t => return (true, (t.lookup "root".toList).any Datum.isTruthy)

/-- The files with settings in a directory, and whether the walk ends there. -/
def inspectDirectory (d : Disk) (place : List Text) (parse : Toml.Reader := Toml.read) :
    Except ConfigError (List Path × Bool) := do
  let project := Path.ofNames (place ++ [projectFileName])
  let own := Path.ofNames (place ++ [configFileName])
  let (a, stopA) ← inspectFile d project parse
  let (b, stopB) ← inspectFile d own parse
  return ((if a then [project] else []) ++ (if b then [own] else []), stopA || stopB)

/-- The files with settings in a place and above it, the outermost first. -/
def discoverAbove (d : Disk) (place : List Text) (parse : Toml.Reader := Toml.read) :
    Except ConfigError (List Path) := do
  let (files, stop) ← inspectDirectory d place parse
  match _h : place with
  | [] => return files
  | _ :: _ =>
    if stop then return files
    return (← discoverAbove d place.dropLast parse) ++ files
termination_by place.length
decreasing_by simp [_h]

/-- The files with settings that apply to a path, the outermost first. -/
def discover (d : Disk) (p : Path) (parse : Toml.Reader := Toml.read) :
    Except ConfigError (List Path) := do
  let names ← (d.resolve p).mapError .noPlace
  discoverAbove d (if d.isFile (.ofNames names) then names.dropLast else names) parse

/-- Lay the drafts of files over a draft. -/
def mergeFiles (d : Disk) (draft : Draft) (files : List Path)
    (parse : Toml.Reader := Toml.read) : Except ConfigError Draft :=
  files.foldlM (fun draft p => return match ← loadDraft d p parse with
    | some upper => draft.merge upper
    | none => draft) draft

/-- The draft for inputs: defaults, then the files that apply to the first input unless they are
not wanted, then further files. -/
def loadMerged (d : Disk) (inputs : List Path) (extra : List Path) (discovers : Bool)
    (parse : Toml.Reader := Toml.read) : Except ConfigError Draft := do
  let start := inputs.head?.getD (.ofNames d.cwd)
  let draft ←
    if discovers then mergeFiles d Draft.defaults (← discover d start parse) parse
    else pure Draft.defaults
  mergeFiles d draft extra parse

end Letterhead

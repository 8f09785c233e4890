import Letterhead.Tree.Disk

/-
  The root of a project, and paths as seen from it.
-/

namespace Letterhead

open Letterhead.Tree

/-- An input path that leads nowhere. -/
structure MissingInput where
  path : Text
  deriving DecidableEq, Repr

def MissingInput.message (e : MissingInput) : String :=
  "No such file or directory: " ++ String.ofList e.path

/-- The paths that inputs name; without inputs, the current directory. -/
def inputPaths (d : Disk) (inputs : List Text) : Except MissingInput (List Path) :=
  if inputs = [] then .ok [.ofNames d.cwd]
  else inputs.mapM fun s => if d.exists? (.ofText s) then .ok (.ofText s) else .error ⟨s⟩

/-- A path as seen from a directory, which is the current one by default. -/
def relativePath (d : Disk) (p : Path) (base : Option Path) : Except PathError Path := do
  let goal ← d.resolve p
  return Path.wayBetween (← d.resolve (base.getD (.ofNames d.cwd))) goal

/-- The deepest directory that holds all paths; without paths, the current one. -/
def commonRoot (d : Disk) (ps : List Path) : Except PathError (List Text) := do
  match ← ps.mapM d.directoryOf with
  | [] => return d.cwd
  | dir :: dirs => return dirs.foldl Path.commonNames dir

/-- Whether a path lies in the current directory. -/
def isLocal (d : Disk) (p : Path) : Except PathError Bool := do
  return (Path.below? d.cwd (← d.resolve p)).isSome

/-- The root of a project: the given one, else the current directory if all paths lie in it, else
the deepest directory that holds them. -/
def projectRoot (d : Disk) (root : Option Path) (paths : List Path) : Except PathError Path :=
  match root with
  | some r => d.canonical r
  | none => do
    if ← paths.allM (isLocal d) then return .ofNames d.cwd
    else return .ofNames (← commonRoot d paths)

end Letterhead

import Letterhead.Batch.File

/-
  Walks through directories. The entries of a directory are visited in the order of their names,
  and each directory with its contents before the next entry. Hidden entries, whose names begin
  with a dot, and excluded ones are passed by. A directory with a definition file decides about
  everything below it; one whose definition file cannot be used keeps what decided above. Each
  question about the tree is put to it as it is when the walk comes there.
-/

namespace Letterhead

open Letterhead.Tree

/-- Whether a name hides its entry. -/
def isHidden (name : Text) : Bool := name.head? == some '.'

/-- A depth that no walk exceeds: at most forty links, between which a path goes down. -/
def Tree.Disk.maxDepth (d : Disk) : Nat := (maxLinks + 1) * (d.root.height + 1)

/-- The definitions that a directory brings along, if it has a definition file that can be used. -/
def ownDefinitions (j : Job) (d : Disk) (dir : Path) :
    Except DefinitionError (Option DefinitionSet) × List Notice :=
  match findDefinitionFile d dir with
  | (none, notices) => (.ok none, notices)
  | (some p, notices) =>
    match DefinitionSet.load d p j.config.encoding j.host with
    | .ok s => (.ok (some s), notices)
    | .error e =>
      if e.isFault then (.error e, notices)
      else (.ok none, notices ++ [.error ("Ignoring definition file: " ++ e.message)])

namespace Batch

/-- Enter a directory: the definitions that hold in it. With `searching` false, definition files on
the way are not looked for. -/
def enter (j : Job) (b : Batch) (searching : Bool) (defs : Option DefinitionSet) (dir : Path) :
    Option DefinitionSet × Batch :=
  if !searching then (defs, b)
  else
    match ownDefinitions j b.disk dir with
    | (.ok (some own), notices) => (some own, { b.note notices with used := b.used + 1 })
    | (.ok none, notices) => (defs, b.note notices)
    | (.error e, notices) => (defs, (b.note notices).fail (.definitions e))

/-- Visit an entry of a directory; `down` goes through a directory. -/
def visit (j : Job) (down : Batch → Path → Batch) (defs : Option DefinitionSet) (b : Batch)
    (p : Path) : Batch :=
  if isHidden p.name then b
  else
    match j.excludes b.disk p with
    | .error cause => b.fail (.noPlace cause)
    | .ok true => b
    | .ok false => if b.disk.isDir p then down b p else b.processFile j defs p

/-- Visit the entries of a directory, until the batch is to stop. -/
def visitAll (j : Job) (down : Batch → Path → Batch) (defs : Option DefinitionSet) (dir : Path)
    (b : Batch) : List Text → Batch
  | [] => b
  | name :: names =>
    if b.isBroken then b
    else if b.isCancelled j then b.note [.info s!"Batch cancelled; stopping in {dir.toString}"]
    else visitAll j down defs dir (b.visit j down defs (dir.child name)) names

/-- Go through a directory; the number bounds the depth. -/
def walk (j : Job) (searching : Bool) : Nat → Option DefinitionSet → Batch → Path → Batch
  | 0, _, b, _ => b
  | depth + 1, defs, b, dir =>
    let (defs, b) := b.enter j searching defs dir
    match b.disk.list dir with
    | .error cause =>
      if b.isBroken then b else b.note [.error s!"Cannot list {dir.toString}: {cause.message dir}"]
    | .ok names => b.visitAll j (walk j searching depth defs) defs dir names

/-- Process every file below a directory. -/
def processDirectory (j : Job) (searching : Bool) (defs : Option DefinitionSet) (b : Batch)
    (dir : Path) : Batch :=
  b.walk j searching b.disk.maxDepth defs dir

end Batch
end Letterhead

import Letterhead.Tree.Node

/-
  A tree with a current directory. Opening a path follows links, up to forty on one way; the
  canonical form of a path has no links, no `..` and is absolute, whether or not the path exists.
-/

namespace Letterhead.Tree

/-- Why a path cannot be opened. -/
inductive Fault where
  | missing
  | notDirectory
  | isDirectory
  | tooManyLinks
  | nullCharacter
  deriving DecidableEq, Repr

/-- What is said of a path with a null character, which no name of a file holds. -/
def nullMessage : String := "embedded null byte"

/-- The message about a path that cannot be opened. -/
def Fault.message (f : Fault) (p : Path) : String :=
  let about := fun (words : String) => words ++ Text.quotedString p.toText
  match f with
  | missing => about "[Errno 2] No such file or directory: "
  | notDirectory => about "[Errno 20] Not a directory: "
  | isDirectory => about "[Errno 21] Is a directory: "
  | tooManyLinks => about "[Errno 40] Too many levels of symbolic links: "
  | nullCharacter => nullMessage

/-- Why a path has no canonical form: a link leads to itself, at the end of the path or on the way,
or a name holds a null character. -/
inductive PathError where
  | loop (path : Path)
  | nullCharacter
  deriving DecidableEq, Repr

def PathError.message : PathError → String
  | loop path => "Symlink loop from " ++ Text.quotedString path.toText
  | nullCharacter => nullMessage

/-- Whether a name in a path holds a null character. -/
def hasNull (p : Path) : Bool := p.parts.any fun name => name.contains '\x00'

/-- A tree and the names that lead to the current directory. -/
structure Disk where
  root : Node
  cwd : List Text

/-- The greatest number of links on the way to a file. -/
def maxLinks : Nat := 40

namespace Disk

/-- The node at a place without links. -/
def node? (d : Disk) (place : List Text) : Option Node := d.root.at? place

/-- Follow names from a place, through at most `links` links. -/
def follow (d : Disk) (links : Nat) (place : List Text) :
    List Text → Except Fault (List Text × Node)
  | [] =>
    match d.node? place with
    | some n => .ok (place, n)
    | none => .error .missing
  | name :: rest =>
    match d.node? place with
    | some (.dir es) =>
      if name = Path.up then d.follow links place.dropLast rest
      else
        match es.lookup name with
        | none => .error .missing
        | some (.link target) =>
          match links with
          | 0 => .error .tooManyLinks
          | links + 1 =>
            let t := Path.ofText target
            d.follow links (if t.absolute then [] else place) (t.parts ++ rest)
        | some _ => d.follow links (place ++ [name]) rest
    | some _ => .error .notDirectory
    | none => .error .missing
termination_by names => (links, names.length)

/-- The place that a path leads to, with the node there. -/
def locate (d : Disk) (p : Path) : Except Fault (List Text × Node) :=
  if hasNull p then .error .nullCharacter
  else d.follow maxLinks (if p.absolute then [] else d.cwd) p.parts

/-- Whether a path leads anywhere. -/
def exists? (d : Disk) (p : Path) : Bool := (d.locate p).isOk

/-- Whether a path leads to a file. -/
def isFile (d : Disk) (p : Path) : Bool :=
  match d.locate p with
  | .ok (_, .file _) => true
  | _ => false

/-- Whether a path leads to a directory. -/
def isDir (d : Disk) (p : Path) : Bool :=
  match d.locate p with
  | .ok (_, .dir _) => true
  | _ => false

/-- The bytes of a file. -/
def read (d : Disk) (p : Path) : Except Fault Bytes :=
  match d.locate p with
  | .ok (_, .file bytes) => .ok bytes
  | .ok _ => .error .isDirectory
  | .error e => .error e

/-- The names in a directory, in order. -/
def list (d : Disk) (p : Path) : Except Fault (List Text) :=
  match d.locate p with
  | .ok (_, .dir es) => .ok (Node.dir es).sortedNames
  | .ok _ => .error .notDirectory
  | .error e => .error e

/-- Write a file. A path that leads nowhere is made where its directory is. -/
def write (d : Disk) (p : Path) (bytes : Bytes) : Except Fault Disk :=
  match d.locate p with
  | .ok (place, .file _) => .ok { d with root := d.root.put place (.file bytes) }
  | .ok _ => .error .isDirectory
  | .error .missing =>
    match d.locate p.parent with
    | .ok (place, .dir _) => .ok { d with root := d.root.put (place ++ [p.name]) (.file bytes) }
    | .ok _ => .error .notDirectory
    | .error e => .error e
  | .error e => .error e

/-! ## Canonical paths -/

/-- Resolve names from a place. Links that are being resolved are not entered again: from such a
link on the rest of the path stays as it is, and the second component is false. The first argument
bounds the depth of links within links. -/
def resolveFrom (d : Disk) (depth : Nat) (open_ : List (List Text)) (place : List Text) :
    List Text → List Text × Bool
  | [] => (place, true)
  | name :: rest =>
    if name = Path.up then d.resolveFrom depth open_ place.dropLast rest
    else
      let place' := place ++ [name]
      match d.node? place' with
      | some (.link target) =>
        if open_.contains place' then (place' ++ rest, false)
        else
          match depth with
          | 0 => (place' ++ rest, false)
          | depth' + 1 =>
            let t := Path.ofText target
            match d.resolveFrom depth' (place' :: open_) (if t.absolute then [] else place)
                t.parts with
            | (p, true) => d.resolveFrom (depth' + 1) open_ p rest
            | (p, false) => (p ++ rest, false)
      | _ => d.resolveFrom depth open_ place' rest
termination_by names => (depth, names.length)

/-- Names without `..`, each of which takes the name before it away. -/
def collapse (names : List Text) : List Text :=
  names.foldl (fun place name => if name = Path.up then place.dropLast else place ++ [name]) []

/-- The canonical names of a path. A path that runs into a link to itself has none. -/
def resolve (d : Disk) (p : Path) : Except PathError (List Text) :=
  if hasNull p then .error .nullCharacter else
  match d.resolveFrom (d.root.linkCount + 1) [] (if p.absolute then [] else d.cwd) p.parts with
  | (names, true) => .ok names
  | (names, false) =>
    let names := collapse names
    match d.follow maxLinks [] names with
    | .error .tooManyLinks => .error (.loop (.ofNames names))
    | _ => .ok names

/-- The canonical form of a path. -/
def canonical (d : Disk) (p : Path) : Except PathError Path := (d.resolve p).map .ofNames

/-- The directory that a path stands for: itself when it is one, else the one that it lies in. -/
def directoryOf (d : Disk) (p : Path) : Except PathError (List Text) := do
  let names ← d.resolve p
  return if d.isDir (.ofNames names) then names else names.dropLast

end Disk
end Letterhead.Tree

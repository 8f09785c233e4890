import Letterhead.Text.Quoted

/-
  Paths of files: a list of names, absolute or relative. Names are never empty and never `.`;
  `..` stays a name until a path is resolved in a tree.
-/

namespace Letterhead

/-- A path. One that begins with exactly two slashes is absolute and keeps them. -/
structure Path where
  absolute : Bool
  parts : List Text
  doubled : Bool := false
  deriving DecidableEq, Repr

namespace Path

/-- The name of the parent directory. -/
def up : Text := ['.', '.']

/-- The names between the slashes of a text; empty names and `.` say nothing. -/
def splitNames (s : Text) : List Text :=
  (Text.splitOn ['/'] s).filter fun n => n ≠ [] && n ≠ ['.']

/-- Read a path. -/
def ofText (s : Text) : Path where
  absolute := s.head? == some '/'
  parts := splitNames s
  doubled := (s.takeWhile (· == '/')).length == 2

/-- The path of the root directory followed by names. -/
def ofNames (names : List Text) : Path where
  absolute := true
  parts := names

/-- The relative path of names. -/
def ofRelative (names : List Text) : Path where
  absolute := false
  parts := names

/-- The written form of a path. -/
def toText (p : Path) : Text :=
  if p.absolute then (if p.doubled then ['/', '/'] else ['/']) ++ Text.joinWith ['/'] p.parts
  else if p.parts = [] then ['.'] else Text.joinWith ['/'] p.parts

def toString (p : Path) : String := String.ofList p.toText

/-- A path below another one; an absolute path stands for itself. -/
def join (p q : Path) : Path := if q.absolute then q else { p with parts := p.parts ++ q.parts }

/-- The path of an entry of a directory. -/
def child (p : Path) (name : Text) : Path := { p with parts := p.parts ++ [name] }

/-- The path without its last name. -/
def parent (p : Path) : Path := { p with parts := p.parts.dropLast }

/-- The last name; empty when there is none. -/
def name (p : Path) : Text := p.parts.getLast?.getD []

/-- The part of a file name from its last dot on, unless the name begins or ends with that dot. -/
def suffixOf (name : Text) : Text :=
  match Text.splitOn ['.'] name with
  | [_] => []
  | pieces =>
    match pieces.getLast?.getD [], pieces.dropLast with
    | [], _ => []
    | last, [first] => if first = [] then [] else '.' :: last
    | last, _ => '.' :: last

/-- The suffix of the last name. -/
def suffix (p : Path) : Text := suffixOf p.name

/-- The names of `p` below `base`, when `p` is there. -/
def below? (base p : List Text) : Option (List Text) :=
  match base, p with
  | [], p => some p
  | _ :: _, [] => none
  | b :: base, n :: p => if b = n then below? base p else none

/-- The names that two lists begin with. -/
def commonNames : List Text → List Text → List Text
  | a :: p, b :: q => if a = b then a :: commonNames p q else []
  | _, _ => []

/-- The way from one absolute path to another: up to the deepest directory they share, and down
from there. -/
def wayBetween (start goal : List Text) : Path :=
  let shared := (commonNames start goal).length
  .ofRelative (List.replicate (start.length - shared) up ++ goal.drop shared)

end Path
end Letterhead

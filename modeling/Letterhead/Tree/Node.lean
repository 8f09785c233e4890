import Letterhead.Tree.Path

/-
  A tree of files: files with their bytes, links with their targets, and directories with named
  entries. Names of entries lead from a node down to others; no link is followed here.
-/

namespace Letterhead.Tree

/-- The contents of a file. -/
abbrev Bytes := List UInt8

/-- A file, a link or a directory. -/
inductive Node where
  | file (bytes : Bytes)
  | link (target : Text)
  | dir (entries : List (Text × Node))

namespace Node

/-- The entries of a directory; other nodes have none. -/
def entries : Node → List (Text × Node)
  | dir es => es
  | _ => []

/-- The entry of a given name. -/
def child? (n : Node) (name : Text) : Option Node := n.entries.lookup name

/-- The node that a list of names leads to. -/
def at? : List Text → Node → Option Node
  | [], n => some n
  | name :: rest, n =>
    match n.child? name with
    | some m => at? rest m
    | none => none

/-- Set an entry; a new one comes last. -/
def setEntry (name : Text) (x : Node) : List (Text × Node) → List (Text × Node)
  | [] => [(name, x)]
  | (m, y) :: es => if m = name then (m, x) :: es else (m, y) :: setEntry name x es

/-- Put a node where a list of names leads to, with the directories on the way. -/
def put : Node → List Text → Node → Node
  | _, [], x => x
  | n, name :: rest, x =>
    dir (setEntry name (put ((n.child? name).getD (dir [])) rest x) n.entries)

/-- The names of the entries of a directory, in order. -/
def sortedNames (n : Node) : List Text := (n.entries.map (·.1)).mergeSort Text.notAfter

mutual

/-- The files below a node, with the names that lead to them. -/
def files : Node → List (List Text × Bytes)
  | file bytes => [([], bytes)]
  | link _ => []
  | dir es => filesOf es

/-- The files below entries. -/
def filesOf : List (Text × Node) → List (List Text × Bytes)
  | [] => []
  | (name, n) :: es => (files n).map (fun (p, b) => (name :: p, b)) ++ filesOf es

end

mutual

/-- The number of links below a node. -/
def linkCount : Node → Nat
  | file _ => 0
  | link _ => 1
  | dir es => linkCountOf es

/-- The number of links below entries. -/
def linkCountOf : List (Text × Node) → Nat
  | [] => 0
  | (_, n) :: es => linkCount n + linkCountOf es

end

mutual

/-- The number of directories on the longest way down from a node. -/
def height : Node → Nat
  | file _ | link _ => 0
  | dir es => heightOf es + 1

/-- The greatest height of entries. -/
def heightOf : List (Text × Node) → Nat
  | [] => 0
  | (_, n) :: es => max (height n) (heightOf es)

end

end Node
end Letterhead.Tree

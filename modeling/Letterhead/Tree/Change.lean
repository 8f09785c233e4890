import Letterhead.Tree.Node

/-
  What becomes of the files of a tree: the files that one tree holds with other bytes than another,
  and those that only one of them holds.
-/

namespace Letterhead.Tree

/-- A file that is not as it was: the names that lead to it, and its bytes unless it is gone. -/
structure FileChange where
  names : List Text
  bytes? : Option Bytes
  deriving DecidableEq, Repr

namespace Node

/-- The tree that holds given files. -/
def ofFiles (fs : List (List Text × Bytes)) : Node :=
  fs.foldl (fun n (names, bytes) => n.put names (.file bytes)) (dir [])

/-- The files that differ between two trees: those that were written, then those that are gone. -/
def changes (old new : Node) : List FileChange :=
  let before := old.files
  let after := new.files
  (after.filter fun (names, bytes) => before.lookup names != some bytes).map
      (fun (names, bytes) => ⟨names, some bytes⟩) ++
    (before.filter fun (names, _) => (after.lookup names).isNone).map
      fun (names, _) => ⟨names, none⟩

end Node
end Letterhead.Tree

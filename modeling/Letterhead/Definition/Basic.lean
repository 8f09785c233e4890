import Letterhead.Language.Basic
import Letterhead.Tree.Path

/-
  Header definitions: which header template a file gets, by its extension. A definition file is a
  sequence of sections, each a marker line with extensions and the template lines below it; a later
  section overrides the template of an extension and keeps its place in the order.
-/

namespace Letterhead

/-- The template of an extension, with the number of the section that gave it. -/
structure Definition where
  extension : Text
  lines : List Text
  sectionNumber : Nat
  deriving DecidableEq, Repr

/-- What two definitions share when they share their template: the section, or nothing at all. -/
def Definition.templateKey (d : Definition) : Option Nat :=
  if d.lines = [] then none else some d.sectionNumber

/-- The definitions of a definition file, in the order in which the extensions first occur. -/
structure DefinitionSet where
  entries : List Definition := []
  source : Option Path := none
  deriving DecidableEq, Repr

namespace DefinitionSet

/-- Set the template of an extension; a new extension comes last. -/
def setEntry (d : Definition) : List Definition → List Definition
  | [] => [d]
  | e :: es => if e.extension = d.extension then d :: es else e :: setEntry d es

/-- The definition for a file name: that of the longest extension that the name ends with, and of
equally long ones the first. -/
def find? (s : DefinitionSet) (fileName : Text) : Option Definition :=
  firstLargest? (fun d => d.extension.length)
    (s.entries.filter fun d => hasExtension fileName d.extension)

/-- The extension that decides about a file name. -/
def matchExtension? (s : DefinitionSet) (fileName : Text) : Option Text :=
  (s.find? fileName).map (·.extension)

/-- The template for a file name. -/
def lookup? (s : DefinitionSet) (fileName : Text) : Option (List Text) :=
  (s.find? fileName).map (·.lines)

/-- The number of the template of each definition, when templates are counted as they first
occur. -/
def templateNumbers (s : DefinitionSet) : List Nat :=
  let keys := s.entries.map Definition.templateKey
  keys.map fun k => keys.eraseDups.idxOf k

end DefinitionSet

/-! ## Reading -/

/-- A section of a definition file. -/
structure DefinitionSection where
  extensions : List Text
  lines : List Text
  deriving DecidableEq, Repr

namespace DefinitionSection

/-- What a marker line begins with. -/
def keyword : Text := "extensions:".toList

/-- The lines before the first marker line, and the sections. -/
def ofLines : List Text → List Text × List DefinitionSection
  | [] => ([], [])
  | l :: ls =>
    let (body, sections) := ofLines ls
    match Text.after? keyword l with
    | some names => ([], ⟨(Text.words names).map normalExtension, body⟩ :: sections)
    | none => (l :: body, sections)

/-- Set the template of every extension of a section. -/
def register (number : Nat) (s : DefinitionSection) (entries : List Definition) :
    List Definition :=
  s.extensions.foldl (fun es ext => DefinitionSet.setEntry ⟨ext, s.lines, number⟩ es) entries

/-- The definitions of sections, the first of which has the given number. -/
def registerAll (number : Nat) (entries : List Definition) :
    List DefinitionSection → List Definition
  | [] => entries
  | s :: ss => registerAll (number + 1) (s.register number entries) ss

end DefinitionSection

/-- Drop a byte order mark. -/
def Text.dropMark : Text → Text
  | '\uFEFF' :: s => s
  | s => s

/-- Read a definition file. -/
def DefinitionSet.ofText (s : Text) (source : Option Path := none) : DefinitionSet where
  entries :=
    DefinitionSection.registerAll 0 [] (DefinitionSection.ofLines (Text.lines (Text.dropMark s))).2
  source

end Letterhead

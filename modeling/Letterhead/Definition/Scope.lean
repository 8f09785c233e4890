import Letterhead.Definition.Basic
import Letterhead.Log.Basic
import Letterhead.Text.Codec
import Letterhead.Tree.Disk

/-
  Scopes of header definitions: a directory with a definition file decides about everything below
  it, up to the next directory that has one. The nearest definition file counts alone.
-/

namespace Letterhead

open Letterhead.Tree

/-- The extension of definition files. -/
def definitionExtension : Text := ".licenseheader".toList

/-- Whether a path names a definition file. -/
def isDefinitionPath (s : Text) : Bool := Text.endsWith definitionExtension (Text.lower s)

/-- Why a definition file cannot be used. No encoding has a name with a null character in it, and
an encoding can refuse a file as a whole. A file that is there can be closed to the program. -/
inductive DefinitionCause where
  | badName
  | unreadable (fault : Fault)
  | closed (reason : String)
  | unknownEncoding (name : Text)
  | notText (name : Text)
  | undecodable
  | refused
  deriving DecidableEq, Repr

/-- A definition file that cannot be used. -/
structure DefinitionError where
  path : Path
  cause : DefinitionCause
  deriving DecidableEq, Repr

def DefinitionError.message (e : DefinitionError) : String :=
  let about := fun (reason : String) =>
    e.path.toString ++ ": cannot read definition file: " ++ reason
  match e.cause with
  | .badName => "embedded null character"
  | .unreadable .nullCharacter => nullMessage
  | .unreadable fault => about (fault.message e.path)
  | .closed reason => about reason
  | .unknownEncoding name => about ("unknown encoding: " ++ String.ofList name)
  | .notText name => about ("'" ++ String.ofList name ++
      "' is not a text encoding; use codecs.open() to handle arbitrary codecs")
  | .undecodable => about "not valid in its encoding"
  | .refused => about "refused by its encoding"

/-- Whether nothing accounts for the error: other files cannot be passed by as if they were not
there. -/
def DefinitionError.isFault (e : DefinitionError) : Bool :=
  [.refused, .badName, .unreadable .nullCharacter].contains e.cause

/-- What the host settles about definition files: the encoding of text for which none is given, and
which files are closed to the program, by their places, and why. -/
structure Host where
  codec : Codec := .utf8 false
  closed : List Text → Option String := fun _ => none

/-- Why the file that a path leads to is closed, if it is. -/
def Host.refusal? (h : Host) (d : Disk) (p : Path) : Option String :=
  match d.locate p with
  | .ok (place, _) => h.closed place
  | .error _ => none

/-- The name that stands for the encoding of the host. -/
def localeName : Text := "locale".toList

/-- The encoding that a configured name stands for; no name and the empty name stand for that of the
host. -/
def definitionCodec (name : Option Text) (h : Host := {}) : Except DefinitionCause Codec :=
  let n := name.getD []
  if n = [] ∨ n = localeName then .ok h.codec
  else
    (Codec.find n).mapError fun
      | .unknown => .unknownEncoding n
      | .notText => .notText n

namespace DefinitionSet

/-- Read a definition file. A file that cannot be opened is reported before an unknown
encoding. -/
def load (d : Disk) (p : Path) (encoding : Option Text) (h : Host := {}) :
    Except DefinitionError DefinitionSet :=
  if (encoding.getD []).contains '\x00' then .error ⟨p, .badName⟩ else
  match d.read p with
  | .error fault => .error ⟨p, .unreadable fault⟩
  | .ok bytes =>
    match h.refusal? d p with
    | some reason => .error ⟨p, .closed reason⟩
    | none =>
      match definitionCodec encoding h with
      | .error cause => .error ⟨p, cause⟩
      | .ok codec =>
        match codec.decode bytes with
        | .ok s => .ok (ofText s (some p))
        | .error .malformed => .error ⟨p, .undecodable⟩
        | .error .refused => .error ⟨p, .refused⟩

end DefinitionSet

/-- The definition files of a directory, in the order of their names. -/
def definitionFiles (d : Disk) (dir : Path) (names : List Text) : List Path :=
  (names.map dir.child).filter fun p =>
    Text.lower p.suffix == definitionExtension && d.isFile p

/-- The definition file of a directory: the first one by name. -/
def findDefinitionFile (d : Disk) (dir : Path) : Option Path × List Notice :=
  match d.list dir with
  | .error fault =>
    (none, [.warning s!"Cannot list {dir.toString}: {fault.message dir}"])
  | .ok names =>
    match definitionFiles d dir names with
    | [] => (none, [])
    | [p] => (some p, [])
    | p :: _ :: _ =>
      (some p,
        [.warning s!"Several definition files in {dir.toString}; using {String.ofList p.name}"])

/-- The directories from a place up to `stop`, or to the root when `stop` is not above it. -/
def scopesUpTo (stop : Option (List Text)) (place : List Text) : List (List Text) :=
  if some place = stop then [place]
  else
    match _h : place with
    | [] => [[]]
    | _ :: _ => place :: scopesUpTo stop place.dropLast
termination_by place.length
decreasing_by simp [_h]

/-- The directories that can decide about a path, the nearest first, up to a root. -/
def scopeChain (d : Disk) (p : Path) (root : Option Path) : Except PathError (List Path) := do
  let place ← d.directoryOf p
  return (scopesUpTo (← root.mapM d.resolve) place).map Path.ofNames

/-- The definitions of the first directory with a definition file. -/
def nearestDefinitions (d : Disk) (encoding : Option Text) (dirs : List Path) (h : Host := {}) :
    Except DefinitionError (Option DefinitionSet) × List Notice :=
  match dirs with
  | [] => (.ok none, [])
  | dir :: dirs =>
    match findDefinitionFile d dir with
    | (some p, notices) => ((DefinitionSet.load d p encoding h).map some, notices)
    | (none, notices) =>
      let (r, more) := nearestDefinitions d encoding dirs h
      (r, notices ++ more)

end Letterhead

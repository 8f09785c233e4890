import Letterhead.Glob.Segment
import Letterhead.Text.Blank
import Letterhead.Text.Quoted

/-
  Exclusions: lines that say which paths are left out. A line is a glob whose names are parted by
  slashes. A single name fits at any depth, several names fit from the root on, and what lies below
  a path that fits is left out with it. `**` covers any number of names, a final slash asks for a
  directory, and a leading `!` takes paths back in; of all lines that fit a path the last decides.
  A line with a bracket that is never closed fits nothing. Directories are given as paths that end
  with a slash.
-/

namespace Letterhead

/-- A line that is no glob, or one with a bracket expression that is no set of characters. -/
inductive GlobError where
  | malformed (line : Text)
  | badSet (line : Text)
  deriving DecidableEq, Repr

def GlobError.message : GlobError → String
  | malformed line => "Invalid git pattern: " ++ line.quotedString
  | badSet line => "not a set of characters in " ++ line.quotedString

namespace Glob

/-- The glob for a name, whatever it is. -/
def anyName : Text := ['*']

/-- The name that stands for any number of names. -/
def anyNames : Text := ['*', '*']

/-! ## Names -/

/-- Drop the empty name of a leading slash, and let a single name fit at any depth. -/
def anchored : List Text → List Text
  | [] :: names => names
  | [name] => [anyNames, name]
  | [name, []] => [anyNames, name, []]
  | names => names

/-- A final slash asks for what lies below. -/
def withContents (names : List Text) : List Text :=
  if names.getLast? = some [] then names.dropLast ++ [anyNames] else names

/-- Keep one of several `**` in a row. -/
def collapsed : List Text → List Text
  | [] => []
  | name :: names =>
    if name = anyNames && names.head? = some anyNames then collapsed names
    else name :: collapsed names

/-- The names of a glob in full: where it begins and what it covers below is written out. -/
def fullNames (s : Text) : List Text :=
  let names := Text.splitOn ['/'] s
  let full := collapsed (withContents (anchored names))
  if full = [anyNames] then
    if names.getLast? = some [] then [anyNames, anyName, anyNames] else [anyNames, anyName]
  else full

/-! ## Patterns -/

/-- At least one character of a set. -/
def someOf (set : CharSet) : Step := .repeated 1 none .greedy [.one set]

/-- A pattern or nothing. -/
def optional (p : Pattern) : Step := .repeated 0 (some 1) .greedy p

/-- The pattern of a glob for a whole name, which is not empty. -/
def name? (s : Text) : Option Pattern := if s = anyName then some [someOf inName] else segment? s

/-- The pattern of names, the first of which follows a slash unless the path begins with it. The
last name is followed by a slash or by the end of the path. -/
def names? (slash : Bool) : List Text → Option Pattern
  | [] => some [.choice [[char '/'], [.anchor .lastLineEnd]]]
  | name :: names =>
    if name = anyNames then
      if names = [] then some [char '/']
      else (names? true names).map (optional [char '/', someOf .allButLineFeed] :: ·)
    else do
      let p := (← name? name) ++ (← names? true names)
      return if slash then char '/' :: p else p

/-- The pattern of a glob in full names. -/
def pattern? : List Text → Option Pattern
  | [] => none
  | name :: names =>
    if name = anyNames && names ≠ [] then
      (names? false names).map (optional [someOf .allButLineFeed, char '/'] :: ·)
    else names? false (name :: names)

end Glob

/-- Paths to leave out, or to take back in. -/
structure Exclusion where
  negated : Bool
  pattern : Pattern
  deriving DecidableEq, Repr

namespace Exclusion

/-- A line without the blank space at its end, unless a backslash keeps it. -/
def trimLine (s : Text) : Text := if Text.endsWith ['\\', ' '] s then s else Text.trimEnd s

/-- Read a line. Blank lines, a lone slash and lines that begin with `#` say nothing, and neither do
lines with an open bracket. -/
def ofLine (line : Text) : Except GlobError (Option Exclusion) :=
  let s := trimLine line
  if s = [] || s.head? = some '#' || s = ['/'] then .ok none
  else
    let (negated, glob) := match s with
      | '!' :: r => (true, r)
      | r => (false, r)
    let names := Glob.fullNames glob
    match names, names.findSome? Glob.segmentFault? with
    | [], _ | _, some .openEscape => .error (.malformed line)
    | _, some .openBracket => .ok none
    | _, none =>
      match Glob.pattern? names with
      | some pattern => .ok (some { negated, pattern })
      | none => .error (.badSet line)

/-- Read lines. -/
def ofLines (lines : List Text) : Except GlobError (List Exclusion) :=
  return (← lines.mapM ofLine).filterMap id

/-- A path as exclusions see it: without a slash or `./` at its start. -/
def relative : Text → Text
  | '/' :: s => s
  | '.' :: '/' :: s => s
  | s => s

/-- Whether an exclusion fits a path. -/
def fits (e : Exclusion) (path : Text) : Bool := (e.pattern.cutStart? path).isSome

/-- Whether exclusions leave a path out: the last one that fits decides. -/
def leaveOut (es : List Exclusion) (path : Text) : Bool :=
  match es.reverse.find? fun e => e.fits (relative path) with
  | some e => !e.negated
  | none => false

end Exclusion
end Letterhead

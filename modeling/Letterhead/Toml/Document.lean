import Letterhead.Toml.Layout
import Letterhead.Toml.Printer
import Letterhead.Toml.Scalar

/-
  TOML documents: lines with keys, and sections with a header each, which together lay out one
  table. Reading gives the table, or says why there is none.
-/

namespace Letterhead.Toml

/-- Why reading stops: the text is no document, nothing may begin at the rest of it, or a table
cannot be laid out. -/
inductive Stop where
  | malformed
  | unexpected (rest : Text)
  | layout (cause : LayoutError)

/-- Take what a reader of plain values finds. -/
def orMalformed {α : Type} : Option (α × Text) → Except Stop (α × Text)
  | some r => .ok r
  | none => .error .malformed

/-! ## Between values -/

/-- Pass over white space, line breaks and comments. -/
def skipLines (inComment : Bool) : Text → Except Stop Text
  | [] => .ok []
  | c :: s =>
    if inComment then
      if c = '\n' then skipLines false s
      else if isControl c then .error .malformed else skipLines true s
    else if isGap c then skipLines false s
    else if c = '#' then skipLines true s
    else .ok (c :: s)

/-- White space inside a line. -/
def isSpace (c : Char) : Bool := c == ' ' || c == '\t'

/-- Pass over white space inside a line. -/
def skipSpaces (s : Text) : Text := s.dropWhile isSpace

/-- Pass over the end of a line, where only a comment may stand. -/
def endLine (s : Text) : Except Stop Text :=
  match skipSpaces s with
  | [] => .ok []
  | '\n' :: s => .ok s
  | '#' :: s =>
    if (s.takeWhile (· != '\n')).any isControl then .error .malformed
    else .ok ((s.dropWhile (· != '\n')).drop 1)
  | s => .error (.unexpected s)

/-! ## Keys -/

/-- One part of a key with the white space around it. -/
def takeKeyPart (s : Text) : Except Stop (Text × Text) :=
  match skipSpaces s with
  | c :: s =>
    if c = '"' ∨ c = '\'' then do
      let (k, rest) ← orMalformed (takeText (c :: s))
      if s.take 2 = [c, c] then .error (.unexpected rest) else .ok (k, skipSpaces rest)
    else
      let isPart := fun c => isBareKeyChar c || isSpace c
      let k := (((c :: s).takeWhile isPart).reverse.dropWhile isSpace).reverse
      if k = [] ∨ ' ' ∈ k then .error .malformed else .ok (k, (c :: s).dropWhile isPart)
  | [] => .error .malformed

/-- Read a key of at most `n` parts with dots between them. -/
def takeParts : Nat → Text → Except Stop (List Text × Text)
  | 0, _ => .error .malformed
  | n + 1, s => do
    let (k, s) ← takeKeyPart s
    match s with
    | '.' :: s =>
      let (ks, s) ← takeParts n s
      return (k :: ks, s)
    | s => return ([k], s)

/-- The parts of a key are at most this many, and so are the lists and tables around a value. -/
def maxDepth : Nat := 100

/-- Read a key and the sign behind it. -/
def takeKey (s : Text) : Except Stop (List Text × Text) := do
  let (key, s) ← takeParts maxDepth s
  match skipSpaces s with
  | '=' :: s =>
    match skipSpaces s with
    | '=' :: s => .error (.unexpected ('=' :: s))
    | s => .ok (key, s)
  | s => .error (.unexpected s)

/-! ## Values -/

/-- Whether a character ends a value that is one word. -/
def endsWord (c : Char) : Bool := isGap c || c == '#' || c == ',' || c == ']' || c == '\x7d'

/-- The word that a text begins with. -/
def wordOf (s : Text) : Text := s.takeWhile fun c => !endsWord c

/-- Read a number or a stamp; one space may part the date of a stamp from its time. -/
def takeWord (s : Text) : Option (Datum × Text) :=
  let word := wordOf s
  let rest := s.drop word.length
  match stamp? word with
  | some (.date d) =>
    let inside := fun c => c == ' ' || !endsWord c
    let more := Text.trimEnd (rest.takeWhile inside)
    if more = [] then some (.stamp (.date d), rest)
    else (date? (word ++ more)).map fun s => (.stamp s, rest.dropWhile inside)
  | some t => some (.stamp t, rest)
  | none => (number? word).map (·, rest)

/-- Read a value that holds no others. -/
def takePlain (s : Text) : Except Stop (Datum × Text) :=
  match s with
  | [] => .error (.unexpected [])
  | c :: t =>
    if c = '"' ∨ c = '\'' then (orMalformed (takeText s)).map fun (t, s) => (.text t, s)
    else if "true".toList.isPrefixOf s then .ok (.bool true, t.drop 3)
    else if "false".toList.isPrefixOf s then .ok (.bool false, t.drop 4)
    else if c = '+' ∨ c = '-' ∨ c.isDigit ∨ wordOf s = "inf".toList ∨ wordOf s = "nan".toList then
      orMalformed (takeWord s)
    else .error (.unexpected s)

/-- Read the items of a list up to its end; a comma may follow the last one. The list also ends
where an item breaks off at a closing bracket. The number bounds the items and commas. -/
def takeItems (takeItem : Text → Except Stop (Item × Text)) :
    Nat → Bool → Text → Except Stop (List Item × Text)
  | 0, _, s => .error (.unexpected s)
  | n + 1, afterItem, s => do
    let s ← skipLines false s
    if afterItem then
      match s with
      | ',' :: s => takeItems takeItem n false s
      | ']' :: s => .ok ([], s)
      | s => .error (.unexpected s)
    else
      match takeItem s with
      | .ok (item, s) => (takeItems takeItem n true s).map fun (items, s) => (item :: items, s)
      | .error (.unexpected (']' :: s)) => .ok ([], s)
      | .error e => .error e

/-- Tables lie at most this deep in tables with headers: their names and the keys below them have
at most `maxDepth` parts each. Two steps go down one table. -/
def layDepth : Nat := 4 * maxDepth

/-- Add an entry to a layout; `checks` tells whether tables that it scatters are checked. -/
def lay (checks : Bool) (c : Layout) (e : Entry) : Except Stop Layout :=
  (c.add layDepth checks e).mapError .layout

/-- Read the fields of a table in braces up to its end; a comma may follow the last one. The number
bounds the fields and commas. -/
def takeFields (takeItem : Text → Except Stop (Item × Text)) :
    Nat → Bool → Layout → Text → Except Stop (Layout × Text)
  | 0, _, _, s => .error (.unexpected s)
  | n + 1, afterField, c, s => do
    match ← skipLines false s with
    | '\x7d' :: s => return (c, s)
    | ',' :: s =>
      if afterField then takeFields takeItem n false c s else .error (.unexpected (',' :: s))
    | s =>
      if afterField then .error (.unexpected s)
      let (key, s) ← takeKey s
      let (item, s) ← takeItem s
      takeFields takeItem n true (← lay true c (Layout.assignment item key)) s

/-- Read a value. The number bounds the lists and tables around another value. -/
def takeValue : Nat → Text → Except Stop (Item × Text)
  | n, '[' :: s =>
    match n with
    | 0 => .error .malformed
    | n + 1 =>
      (takeItems (takeValue n) (s.length + 1) false s).map fun (items, s) => (.list items, s)
  | n, '\x7b' :: s =>
    match n with
    | 0 => .error .malformed
    | n + 1 =>
      (takeFields (takeValue n) (s.length + 1) false [] s).map fun (c, s) => (.inline c, s)
  | _, s => (takePlain s).map fun (d, s) => (.value d, s)

/-! ## Sections -/

/-- Read lines with keys up to the next header. The number bounds the lines. -/
def takeLines (put : Layout → Entry → Except Stop Layout) :
    Nat → Layout → Text → Except Stop (Layout × Text)
  | 0, _, _ => .error .malformed
  | n + 1, c, s => do
    match ← skipLines false s with
    | [] => return (c, [])
    | '[' :: s => return (c, '[' :: s)
    | s =>
      let (key, s) ← takeKey s
      let (item, s) ← takeValue maxDepth s
      let s ← endLine s
      takeLines put n (← put c (Layout.assignment item key)) s

/-- What a header names: a table, or an element of an array of tables. -/
structure Header where
  isElement : Bool
  key : List Text
  deriving DecidableEq

/-- Read a header up to its closing brackets. -/
def takeName (s : Text) : Except Stop (Header × Text) :=
  match s with
  | '[' :: '[' :: s => (takeParts maxDepth s).map fun (key, s) => (⟨true, key⟩, s)
  | s => (takeParts maxDepth (s.drop 1)).map fun (key, s) => (⟨false, key⟩, s)

/-- Read a header with its line. The character behind the first closing bracket of an element goes
with it. -/
def takeHeader (s : Text) : Except Stop (Header × Text) := do
  let (header, s) ← takeName s
  match s with
  | ']' :: s => return (header, ← endLine (if header.isElement then s.drop 1 else s))
  | _ => .error .malformed

/-- The header that comes next, if there is one. -/
def nextHeader (s : Text) : Except Stop (Option Header) :=
  if s = [] then .ok none else (takeName s).map fun (header, _) => some header

/-- Whether a key names a table inside the one with the key `outer`. -/
def isBelow (outer key : List Text) : Bool := outer.isPrefixOf key && outer != key

/-- Put an entry into a table with a header. -/
def layBelow (c : Layout) (e : Entry) : Except Stop Layout := do
  let c ← lay e.2.1 c e
  (c.touch e.1).mapError .layout

mutual

/-- Read a section: a header, the lines below it and the sections of the tables inside. `arrays`
are the names of the arrays of tables around it that have elements already. The number bounds the
sections. -/
def takeSection : Nat → List (List Text) → Text → Except Stop (Header × Layout × Text)
  | 0, _, _ => .error .malformed
  | n + 1, arrays, s => do
    let (header, s) ← takeHeader s
    let (c, s) ← takeLines layBelow (s.length + 1) [] s
    let (c, s) ← takeInner n header.key arrays c s
    ((c.map (·.1)).eraseDups.forM (c.check layDepth)).mapError .layout
    return (header, c, s)

/-- Read the sections of the tables inside a table. -/
def takeInner : Nat → List Text → List (List Text) → Layout → Text →
    Except Stop (Layout × Text)
  | 0, _, _, _, _ => .error .malformed
  | n + 1, outer, arrays, c, s => do
    match ← nextHeader s with
    | none => return (c, s)
    | some header =>
      if isBelow outer header.key then
        let (e, s) ← takeTable n outer arrays s
        takeInner n outer arrays (← layBelow c e) s
      else return (c, s)

/-- Read a table, or an array of tables with the elements that follow. -/
def takeTable : Nat → List Text → List (List Text) → Text → Except Stop (Entry × Text)
  | 0, _, _, _ => .error .malformed
  | n + 1, outer, arrays, s => do
    let (header, c, s) ← takeSection n arrays s
    let name := header.key.drop outer.length
    let origin :=
      if header.isElement && arrays.contains (name.take 1) then Origin.element else .passing
    if !header.isElement then return (Layout.nested origin (.table .header c) name, s)
    else if name.length = 1 then
      let (cs, s) ← takeElements n header arrays s
      return (Layout.nested origin (.tables (c :: cs)) name, s)
    else return (Layout.nested origin (.tables [c]) name, s)

/-- Read further elements of an array of tables. -/
def takeElements : Nat → Header → List (List Text) → Text →
    Except Stop (List Layout × Text)
  | 0, _, _, _ => .error .malformed
  | n + 1, header, arrays, s => do
    if (← nextHeader s) = some header then
      let (_, c, s) ← takeSection n (header.key :: arrays) s
      let (cs, s) ← takeElements n header arrays s
      return (c :: cs, s)
    else return ([], s)

end

/-! ## Documents -/

/-- Put an entry into the outermost table, where no second definition of a key makes a document. -/
def layOutermost (c : Layout) (e : Entry) : Except Stop Layout :=
  (c.add layDepth true e).mapError fun _ => .malformed

/-- Read the sections of the outermost table. The number bounds them. -/
def takeSections : Nat → Layout → Text → Except Stop Layout
  | _, c, [] => .ok c
  | 0, _, _ => .error .malformed
  | n + 1, c, s => do
    let (e, rest) ← takeTable (2 * s.length + 3) [] [] s
    takeSections n (← layOutermost c e) rest

/-- Why a document cannot be read. -/
inductive ReadError where
  | malformed
  | layout (cause : LayoutError)

def ReadError.ofStop : Stop → ReadError
  | .layout cause => layout cause
  | .malformed | .unexpected _ => malformed

/-- What reads documents. `read` is one; what is done with settings does not depend on which one it
is. -/
abbrev Reader := Text → Except ReadError Table

/-- Read a document. -/
def read (s : Text) : Except ReadError Table := do
  let n := s.length + maxDepth
  let c ← (do
    let (c, rest) ← takeLines layOutermost n [] s
    takeSections n c rest).mapError .ofStop
  (c.finished n).mapError .layout

end Letterhead.Toml

import Letterhead.Data.Basic

/-
  Tables written as TOML. A table has its plain values first, then its tables and arrays of tables in
  order; an element of an array has its tables last. A table that holds no plain values needs no
  header of its own. An empty line sets off what comes after something else in the table that holds
  it.
-/

namespace Letterhead.Toml

/-! ## Keys and values -/

/-- The characters of keys without quotes. -/
def isBareKeyChar (c : Char) : Bool := c.isAlphanum || c == '-' || c == '_'

/-- One character of a quoted text. -/
def quotedChar (c : Char) : Text :=
  match c with
  | '"' => ['\\', '"']
  | '\\' => ['\\', '\\']
  | '\x08' => ['\\', 'b']
  | '\t' => ['\\', 't']
  | '\n' => ['\\', 'n']
  | '\x0c' => ['\\', 'f']
  | '\r' => ['\\', 'r']
  | c => if c.toNat < 0x20 ∨ c.toNat = 0x7F then '\\' :: 'u' :: Text.hexDigits 4 c.toNat else [c]

/-- A quoted text. -/
def quoted (s : Text) : Text := '"' :: s.flatMap quotedChar ++ ['"']

/-- A key, in quotes where it needs them. -/
def keyText (k : Text) : Text := if k ≠ [] ∧ k.all isBareKeyChar then k else quoted k

/-- A stamp; universal time is marked by the letter Z. -/
def stampText (s : Stamp) : Text := Text.replaceAll "+00:00".toList ['Z'] s.text

mutual

/-- A value on one line; `comma` parts the fields of a table. -/
def valueText (comma : Text) : Datum → Text
  | .null => []
  | .bool b => if b then "true".toList else "false".toList
  | .int n => Datum.intText n
  | .float x => x.text
  | .text s => quoted s
  | .stamp s => stampText s
  | .list items => '[' :: Text.joinWith ", ".toList (itemTexts items) ++ [']']
  | .table entries => '\x7b' :: Text.joinWith comma (fieldTexts entries) ++ ['\x7d']

/-- The items of a list. A table among them has a space after its commas. -/
def itemTexts : List Datum → List Text
  | [] => []
  | d :: ds => valueText ", ".toList d :: itemTexts ds

/-- The fields of a table. A table among them has no space after its commas. -/
def fieldTexts : List (Text × Datum) → List Text
  | [] => []
  | (k, d) :: es => (keyText k ++ " = ".toList ++ valueText [','] d) :: fieldTexts es

end

/-- The line of a plain value. -/
def fieldLine (e : Text × Datum) : Text :=
  keyText e.1 ++ " = ".toList ++ valueText [','] e.2 ++ ['\n']

/-! ## Kinds of entries -/

/-- Whether a datum is a table. -/
def isTable : Datum → Bool
  | .table _ => true
  | _ => false

/-- Whether a datum is an array of tables. -/
def isTables : Datum → Bool
  | .list items => !items.isEmpty && items.all isTable
  | _ => false

/-- Whether a datum gets a header of its own. -/
def hasHeader (d : Datum) : Bool := isTable d || isTables d

/-- The lines of the plain values of a table. -/
def fieldLines (entries : List (Text × Datum)) : Text :=
  (entries.filter fun e => !hasHeader e.2).flatMap fieldLine

mutual

/-- Leave out the nulls in tables. -/
def withoutNulls : Datum → Datum
  | .list items => .list (itemsWithoutNulls items)
  | .table entries => .table (entriesWithoutNulls entries)
  | d => d

def itemsWithoutNulls : List Datum → List Datum
  | [] => []
  | d :: ds => withoutNulls d :: itemsWithoutNulls ds

def entriesWithoutNulls : List (Text × Datum) → List (Text × Datum)
  | [] => []
  | (_, .null) :: es => entriesWithoutNulls es
  | (k, d) :: es => (k, withoutNulls d) :: entriesWithoutNulls es

end

/-! ## Order -/

/-- The entries of a table with the tables last. -/
def tablesLast (entries : List (Text × Datum)) : List (Text × Datum) :=
  entries.filter (fun e => !isTable e.2) ++ entries.filter fun e => isTable e.2

mutual

/-- Put the tables last in the elements of arrays of tables. -/
def arranged : Datum → Datum
  | .list items => if isTables (.list items) then .list (arrangedElements items) else .list items
  | .table entries => .table (arrangedEntries entries)
  | d => d

def arrangedElements : List Datum → List Datum
  | [] => []
  | .table entries :: ds => .table (tablesLast (arrangedEntries entries)) :: arrangedElements ds
  | d :: ds => d :: arrangedElements ds

def arrangedEntries : List (Text × Datum) → List (Text × Datum)
  | [] => []
  | (k, d) :: es => (k, arranged d) :: arrangedEntries es

end

/-! ## Tables -/

def emptyLine (needed : Bool) : Text := if needed then ['\n'] else []

/-- The name in a header. -/
def pathText (path : List Text) : Text := Text.joinWith ['.'] (path.map keyText)

/-- Whether some entry is a plain value. -/
def hasFields (entries : List (Text × Datum)) : Bool := entries.any fun e => !hasHeader e.2

mutual

/-- The tables and arrays of tables among the entries of the table at `path`. An empty line sets off
each but an array that is named first; `fields` tells whether the table has plain values, `parted`
whether anything is named before. -/
def headedText (path : List Text) (fields parted : Bool) : List (Text × Datum) → Text
  | [] => []
  | (k, .table entries) :: es =>
    let own := path ++ [k]
    let header :=
      if entries.isEmpty || hasFields entries then '[' :: pathText own ++ "]\n".toList else []
    emptyLine (fields || parted) ++ header ++ fieldLines entries ++
      headedText own (hasFields entries) false entries ++ headedText path fields true es
  | (k, .list items) :: es =>
    (if isTables (.list items) then elementsText (path ++ [k]) parted items else []) ++
      headedText path fields true es
  | _ :: es => headedText path fields true es

/-- The elements of an array of tables; only after an empty one no empty line follows. -/
def elementsText (path : List Text) (parted : Bool) : List Datum → Text
  | [] => []
  | .table entries :: ds =>
    emptyLine parted ++ "[[".toList ++ pathText path ++ "]]\n".toList ++ fieldLines entries ++
      headedText path (hasFields entries) false entries ++ elementsText path (!entries.isEmpty) ds
  | _ :: ds => elementsText path parted ds

end

/-- The text of the outermost table. -/
def documentText (entries : List (Text × Datum)) : Text :=
  fieldLines entries ++ headedText [] (hasFields entries) false entries

/-- Why a table cannot be written. -/
inductive WriteError where
  | nullInList
  | unwritable
  deriving DecidableEq, Repr

def WriteError.message : WriteError → String
  | nullInList => "Unable to convert an object of type <class 'NoneType'> to a TOML item"
  | unwritable => Whole.unwritableMessage

mutual

/-- The first thing in a datum that cannot be written; the tables of a table come last. -/
def fault? : Datum → Option WriteError
  | .int n => if Whole.isWritable n then none else some .unwritable
  | .list items => itemsFault? items
  | .table entries => entriesFault? false entries <|> entriesFault? true entries
  | _ => none

/-- Nothing is no item of a list. -/
def itemsFault? : List Datum → Option WriteError
  | [] => none
  | .null :: _ => some .nullInList
  | d :: ds => fault? d <|> itemsFault? ds

/-- The first fault in the tables among entries, or in all other entries. -/
def entriesFault? (tables : Bool) : List (Text × Datum) → Option WriteError
  | [] => none
  | (_, d) :: es => (if isTable d = tables then fault? d else none) <|> entriesFault? tables es

end

/-- A table as a TOML document. -/
def write (t : Table) : Except WriteError Text :=
  match fault? (.table t) with
  | some fault => .error fault
  | none => .ok (documentText (arrangedEntries (entriesWithoutNulls t)))

end Letterhead.Toml

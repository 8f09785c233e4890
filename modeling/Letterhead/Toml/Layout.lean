import Letterhead.Data.Basic

/-
  Tables under construction. A key may come up several times, and then its tables are joined: a
  header may stand apart from the headers of its sub-tables, and a dotted key from the keys that it
  shares its beginning with. All else that would define a key twice is refused.
-/

namespace Letterhead.Toml

/-- How a table came to be: by its own header, named on the way to another table, or named on the
way inside an array of tables of that name. -/
inductive Origin where
  | header
  | passing
  | element
  deriving DecidableEq, Repr

/-- Whether further keys and tables may be added elsewhere. -/
def Origin.isOpen (origin : Origin) : Bool := origin != .header

/-- What a key holds. An entry is a key, whether it began a dotted key, and what it holds. -/
inductive Item where
  | value (d : Datum)
  | list (items : List Item)
  | inline (entries : List (Text × Bool × Item))
  | table (origin : Origin) (entries : List (Text × Bool × Item))
  | tables (elements : List (List (Text × Bool × Item)))

abbrev Entry := Text × Bool × Item

/-- The entries of a table in the order of the text; a key with several entries is scattered. -/
abbrev Layout := List Entry

/-- Why a table cannot be laid out. -/
inductive LayoutError where
  | taken (key : Text)
  | closed
  deriving DecidableEq, Repr

def LayoutError.message : LayoutError → String
  | taken key => "Key \"" ++ String.ofList key ++ "\" already exists."
  | closed => "Redefinition of an existing table"

namespace Item

def isTable : Item → Bool
  | .table _ _ => true
  | _ => false

/-- The entries of a table that may be scattered. -/
def entries : Item → Layout
  | .table _ es => es
  | _ => []

end Item

namespace Layout

/-! ## Keys with several entries -/

/-- The last entry of a key. -/
def last? (key : Text) (c : Layout) : Option (Bool × Item) := c.reverse.lookup key

/-- The key of the last table. -/
def lastTable? (c : Layout) : Option Text := (c.reverse.find? fun e => e.2.2.isTable).map (·.1)

/-- Put another item into the last entry of a key. -/
def replaceLast (key : Text) (item : Item) (c : Layout) : Layout :=
  let behind := (c.reverse.takeWhile fun e => e.1 != key).reverse
  match c.reverse.dropWhile fun e => e.1 != key with
  | (_, dotted, _) :: front => front.reverse ++ (key, dotted, item) :: behind
  | [] => c

def isScattered (key : Text) (c : Layout) : Bool := 1 < c.countP fun e => e.1 == key

/-- What the tables under a key hold. -/
def gathered (key : Text) (c : Layout) : Layout :=
  c.flatMap fun e => if e.1 = key then e.2.2.entries else []

/-- The tables under a key as one. -/
def joined (key : Text) (c : Layout) : Except LayoutError Layout :=
  (gathered key c).foldlM (fun whole e =>
    match last? e.1 whole with
    | none | some (_, .table _ _) => .ok (whole ++ [e])
    | some _ => .error (.taken e.1)) []

/-- Ask that the tables under a key join. -/
def touch (key : Text) (c : Layout) : Except LayoutError Layout :=
  if isScattered key c then (joined key c).map fun _ => c else .ok c

/-! ## Adding entries -/

mutual

/-- Add an entry. The number bounds the depth of tables. -/
def add : Nat → Bool → Layout → Entry → Except LayoutError Layout
  | 0, _, _, (key, _) => .error (.taken key)
  | n + 1, checks, c, (key, dotted, item) =>
    match last? key c, item with
    | none, _ => .ok (c ++ [(key, dotted, item)])
    | some (_, .tables us), .tables vs => .ok (replaceLast key (.tables (us ++ vs)) c)
    | some (_, .tables us), .table .element v => .ok (replaceLast key (.tables (us ++ [v])) c)
    | some (_, .table _ u), .table .element v => .ok (replaceLast key (.tables [u, v]) c)
    | some (wasDotted, .table before u), .table origin v =>
      if !before.isOpen then
        if origin.isOpen then .ok (c ++ [(key, dotted, item)]) else .error (.taken key)
      else if !origin.isOpen then
        if wasDotted then .error .closed else .ok (c ++ [(key, dotted, item)])
      else if dotted || wasDotted || lastTable? c != some key then
        let c := c ++ [(key, dotted, item)]
        if checks then (check n c key).map fun _ => c else .ok c
      else
        (v.foldlM (fun u e => (add n true u e).bind (touch e.1)) u).map fun whole =>
          replaceLast key (.table before whole) c
    | some _, _ => .error (.taken key)

/-- Check that the tables under a key agree, at any depth. -/
def check : Nat → Layout → Text → Except LayoutError Unit
  | 0, _, _ => .ok ()
  | n + 1, c, key =>
    if isScattered key c then do
      let whole ← (gathered key c).foldlM (add n false) []
      (whole.map (·.1)).eraseDups.forM (check n whole)
    else .ok ()

end

/-- The entry that assigns an item to a key, which has dots between several parts. -/
def assignment (item : Item) : List Text → Entry
  | [] => ([], false, item)
  | [k] => (k, false, item)
  | k :: l :: path => (k, true, .table .passing [assignment item (l :: path)])

/-- The entry for a table, or an element of an array of tables, with a name of several parts. -/
def nested (origin : Origin) (item : Item) : List Text → Entry
  | [] => ([], false, item)
  | [k] => (k, false, item)
  | k :: l :: path => (k, false, .table origin [nested .passing item (l :: path)])

/-! ## Finished tables -/

mutual

/-- The datum of an item. The number bounds the depth. -/
def datum : Nat → Item → Except LayoutError Datum
  | 0, _ => .ok .null
  | _ + 1, .value d => .ok d
  | n + 1, .list items => (items.mapM (datum n)).map .list
  | n + 1, .inline c => (finished n c).map .table
  | n + 1, .table _ c => (finished n c).map .table
  | n + 1, .tables cs => (cs.mapM (finished n)).map fun ts => .list (ts.map .table)

/-- The table of a layout. A key has the place of its first entry. -/
def finished : Nat → Layout → Except LayoutError Table
  | 0, _ => .ok []
  | n + 1, c => (c.map (·.1)).eraseDups.mapM fun key => do
    if isScattered key c then return (key, .table (← finished n (← joined key c)))
    match last? key c with
    | some (_, item) => return (key, ← datum n item)
    | none => return (key, .null)

end

end Layout
end Letterhead.Toml

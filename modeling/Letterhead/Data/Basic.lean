import Letterhead.Data.Time
import Letterhead.Number.Shortest
import Letterhead.Number.Whole

/-
  Data of any shape, as configuration files hold it: numbers, texts and stamps, lists of data, and
  tables of data under keys. `Datum.words` and `Datum.describe` write data down for people; the
  second one quotes texts.
-/

namespace Letterhead

/-- Data of any shape. Nothing is data, too. -/
inductive Datum where
  | null
  | bool (b : Bool)
  | int (n : Int)
  | float (x : Double)
  | text (s : Text)
  | stamp (s : Stamp)
  | list (items : List Datum)
  | table (entries : List (Text × Datum))
  deriving Repr, Inhabited

/-- Data under keys, in the order in which the keys were first set. -/
abbrev Table := List (Text × Datum)

namespace Table

/-- The value of a key, if it has one other than null. -/
def value? (t : Table) (key : Text) : Option Datum :=
  match t.lookup key with
  | none | some .null => none
  | some d => some d

end Table

namespace Datum

/-- The name of the kind of a datum. -/
def kind : Datum → String
  | null => "NoneType"
  | bool _ => "bool"
  | int _ => "int"
  | float _ => "float"
  | text _ => "str"
  | stamp (.date _) => "date"
  | stamp (.time _) => "time"
  | stamp (.dateTime ..) => "datetime"
  | list _ => "list"
  | table _ => "dict"

/-- The name of the kind of a datum, stamps with the name of their family in front. -/
def fullKind : Datum → String
  | stamp s => "datetime." ++ kind (stamp s)
  | d => d.kind

/-- Whether a datum counts as true: zero and everything empty count as false. -/
def isTruthy : Datum → Bool
  | null => false
  | bool b => b
  | int n => n != 0
  | float x => !x.isZero
  | text s => s != []
  | stamp _ => true
  | list items => !items.isEmpty
  | table entries => !entries.isEmpty

def text? : Datum → Option Text
  | text s => some s
  | _ => none

def table? : Datum → Option Table
  | table t => some t
  | _ => none

/-! ## Descriptions -/

/-- A number in decimal digits, perhaps with a sign. -/
def intText (n : Int) : Text :=
  (if n < 0 then ['-'] else []) ++ Nat.toDigits 10 n.natAbs

mutual

/-- A datum as messages show it. -/
def describe : Datum → Text
  | null => "None".toList
  | bool b => if b then "True".toList else "False".toList
  | int n => intText n
  | float x => x.text
  | text s => Text.quoted s
  | stamp s => s.describe
  | list items => '[' :: Text.joinWith ", ".toList (describeItems items) ++ [']']
  | table entries => '\x7b' :: Text.joinWith ", ".toList (describeEntries entries) ++ ['\x7d']

def describeItems : List Datum → List Text
  | [] => []
  | d :: ds => describe d :: describeItems ds

def describeEntries : List (Text × Datum) → List Text
  | [] => []
  | (k, d) :: es => (Text.quoted k ++ ": ".toList ++ describe d) :: describeEntries es

end

def describeString (d : Datum) : String := String.ofList d.describe

/-- A datum as words: a text stands for itself and a stamp for its standard text. -/
def words : Datum → Text
  | text s => s
  | stamp s => s.textWith ' '
  | d => d.describe

mutual

/-- Whether a datum can be described: no whole number in it has too many digits. -/
def isWritable : Datum → Bool
  | int n => Whole.isWritable n
  | list items => itemsWritable items
  | table entries => entriesWritable entries
  | _ => true

def itemsWritable : List Datum → Bool
  | [] => true
  | d :: ds => isWritable d && itemsWritable ds

def entriesWritable : List (Text × Datum) → Bool
  | [] => true
  | (_, d) :: es => isWritable d && entriesWritable es

end

end Datum
end Letterhead

import Letterhead.Data.Basic
import Letterhead.Number.Fixed

/-
  Messages with directives. A directive begins with a percent sign and stands for the next argument;
  flags, a width and a precision may come before the letter that tells how the argument is written.
  Every argument has to be used up. A single argument that is a table can also be taken apart: a
  directive then names a key of it.
-/

namespace Letterhead.Log

/-- Why a message cannot be written. -/
inductive FormatError where
  | tooFewArguments
  | tooManyArguments
  | incomplete
  | unknownLetter (letter : Char) (index : Nat)
  | notNumber (letter : Char) (value : Datum)
  | notInteger (letter : Char) (value : Datum)
  | notReal (value : Datum)
  | notChar
  | noSuchChar
  | notCount
  | countTooBig (kind : String)
  | countOutOfRange (kind : String)
  | notFinite (nan : Bool)
  | tooLarge
  | needsKeys
  | incompleteKey
  | missingKey (key : Text)

def FormatError.message : FormatError → String
  | tooFewArguments => "not enough arguments for format string"
  | tooManyArguments => "not all arguments converted during string formatting"
  | incomplete => "incomplete format"
  | unknownLetter letter index =>
    let shown := if 31 ≤ letter.toNat && letter.toNat ≤ 126 then letter else '?'
    s!"unsupported format character '{shown}' (0x" ++
      String.ofList (Nat.toDigits 16 letter.toNat) ++ s!") at index {index}"
  | notNumber letter value => s!"%{letter} format: a real number is required, not {value.kind}"
  | notInteger letter value => s!"%{letter} format: an integer is required, not {value.kind}"
  | notReal value => s!"must be real number, not {value.kind}"
  | notChar => "%c requires int or char"
  | noSuchChar => "%c arg not in range(0x110000)"
  | notCount => "* wants int"
  | countTooBig kind => kind ++ " too big"
  | countOutOfRange kind => "Python int too large to convert to C " ++ kind
  | tooLarge => "int too large to convert to float"
  | notFinite true => "cannot convert float NaN to integer"
  | notFinite false => "cannot convert float infinity to integer"
  | needsKeys => "format requires a mapping"
  | incompleteKey => "incomplete format key"
  | missingKey key => key.quotedString

/-- How an argument is laid out. -/
structure Layout where
  left : Bool := false
  plus : Bool := false
  space : Bool := false
  alternate : Bool := false
  zeros : Bool := false
  width : Nat := 0
  precision : Option Nat := none

namespace Layout

/-- Set the flag of a character. -/
def flag? (l : Layout) : Char → Option Layout
  | '-' => some { l with left := true }
  | '+' => some { l with plus := true }
  | ' ' => some { l with space := true }
  | '#' => some { l with alternate := true }
  | '0' => some { l with zeros := true }
  | _ => none

/-- Spaces up to the width. -/
def padded (l : Layout) (s : Text) : Text :=
  let fill := List.replicate (l.width - s.length) ' '
  if l.left then s ++ fill else fill ++ s

/-- A text, cut off at the precision. -/
def text (l : Layout) (s : Text) : Text :=
  l.padded (match l.precision with
    | some n => s.take n
    | none => s)

/-- A number from its sign, a mark of its base and its digits. -/
def number (l : Layout) (negative : Bool) (base digits : Text) : Text :=
  let head := (if negative then ['-'] else if l.plus then ['+'] else if l.space then [' '] else []) ++ base
  let zeros := if l.zeros && !l.left then l.width - head.length - digits.length else 0
  l.padded (head ++ List.replicate zeros '0' ++ digits)

/-- A whole number in a base; the precision is the least number of digits. -/
def integer (l : Layout) (base : Nat) (mark : Text) (upper : Bool) (n : Int) : Text :=
  let digits := Nat.toDigits base n.natAbs
  let digits := List.replicate (l.precision.getD 0 - digits.length) '0' ++ digits
  let cased := fun (s : Text) => if upper then s.map Char.toUpper else s
  l.number (decide (n < 0)) (cased (if l.alternate then mark else [])) (cased digits)

/-- A floating-point number as a letter wants it. -/
def double (l : Layout) (letter : Char) : Double → Text
  | .finite negative m e =>
    let places := l.precision.getD 6
    let digits := match letter.toLower with
      | 'f' => Double.fixedText l.alternate m e places
      | 'e' => Double.scientificText l.alternate m e places
      | _ => Double.generalText l.alternate m e (max places 1)
    l.number negative [] (if letter.isUpper then digits.map Char.toUpper else digits)
  | .infinite negative =>
    { l with zeros := false }.number negative [] (if letter.isUpper then "INF" else "inf").toList
  | .nan => { l with zeros := false }.number false [] (if letter.isUpper then "NAN" else "nan").toList

end Layout

/-- The whole number that a number is cut off to. -/
def wholePart (letter : Char) : Datum → Except FormatError Int
  | .int n => .ok n
  | .bool b => .ok (if b then 1 else 0)
  | .float (.finite negative m e) =>
    let n := m * Nat.pow 2 e.toNat / Nat.pow 2 (-e).toNat
    .ok (if negative then -(n : Int) else n)
  | .float .nan => .error (.notFinite true)
  | .float _ => .error (.notFinite false)
  | d => .error (.notNumber letter d)

/-- A whole number as it is. -/
def exactInteger (letter : Char) : Datum → Except FormatError Int
  | .int n => .ok n
  | .bool b => .ok (if b then 1 else 0)
  | d => .error (.notInteger letter d)

/-- A number in floating point. -/
def realNumber : Datum → Except FormatError Double
  | .float x => .ok x
  | .int n =>
    match Double.ofQuotient (decide (n < 0)) n.natAbs 1 with
    | .infinite _ => .error .tooLarge
    | x => .ok x
  | .bool b => .ok (Double.ofQuotient false (if b then 1 else 0) 1)
  | d => .error (.notReal d)

/-- A character, or the number of one. -/
def character : Datum → Except FormatError Char
  | .text [c] => .ok c
  | .int n => if 0 ≤ n ∧ n < 0x110000 then .ok (Char.ofNat n.toNat) else .error .noSuchChar
  | .bool b => .ok (Char.ofNat (if b then 1 else 0))
  | _ => .error .notChar

/-- An argument as its letter wants it; `index` is the place of the letter in the message. -/
def convert (l : Layout) (letter : Char) (index : Nat) (d : Datum) : Except FormatError Text :=
  match letter with
  | 's' => .ok (l.text d.words)
  | 'r' => .ok (l.text d.describe)
  | 'a' => .ok (l.text (d.describe.flatMap asciiChar))
  | 'd' | 'i' | 'u' => (wholePart letter d).map (l.integer 10 [] false)
  | 'x' => (exactInteger letter d).map (l.integer 16 ['0', 'x'] false)
  | 'X' => (exactInteger letter d).map (l.integer 16 ['0', 'x'] true)
  | 'o' => (exactInteger letter d).map (l.integer 8 ['0', 'o'] false)
  | 'e' | 'E' | 'f' | 'F' | 'g' | 'G' => (realNumber d).map (l.double letter)
  | 'c' => (character d).map fun c => l.padded [c]
  | _ => .error (.unknownLetter letter index)
where
  /-- A character beyond ASCII as its number. -/
  asciiChar (c : Char) : Text :=
    if c.toNat < 0x80 then [c]
    else if c.toNat < 0x100 then ['\\', 'x'] ++ Text.hexDigits 2 c.toNat
    else if c.toNat < 0x10000 then ['\\', 'u'] ++ Text.hexDigits 4 c.toNat
    else ['\\', 'U'] ++ Text.hexDigits 8 c.toNat

/-! ## Reading directives -/

/-- The arguments that are left. With a table to take apart, some may be left over at the end. -/
structure Supply where
  items : List Datum
  named : Option Table := none

namespace Supply

/-- The next argument. -/
def next (s : Supply) : Except FormatError (Datum × Supply) :=
  match s.items with
  | [] => .error .tooFewArguments
  | d :: ds => .ok (d, { s with items := ds })

/-- The next argument as a width or a precision. -/
def count (s : Supply) : Except FormatError (Int × Supply) := do
  match ← s.next with
  | (.int n, s) => return (n, s)
  | (.bool b, s) => return (if b then 1 else 0, s)
  | _ => throw .notCount

/-- Make the value of a key the next argument. -/
def choose (s : Supply) (key : Text) : Except FormatError Supply :=
  match s.named with
  | none => .error .needsKeys
  | some t =>
    match t.lookup key with
    | some d => .ok { s with items := [d] }
    | none => .error (.missingKey key)

end Supply

/-- How far a directive has been read: up to its percent sign, or into the key, the flags, the digits
of the width, up to the point, to the digits of the precision, to the name of a size, or to the
letter. -/
inductive Stage where
  | start
  | key (depth : Nat) (read : Text)
  | flags (l : Layout)
  | width (l : Layout)
  | point (l : Layout)
  | precision (l : Layout)
  | places (l : Layout)
  | size (l : Layout)
  | letter (l : Layout)

/-- A count in a directive: its name, the greatest one that can be written, and the name of the range
that one taken from the arguments has to lie in. -/
structure CountKind where
  name : String
  max : Nat
  range : String

/-- The width of an argument. -/
def CountKind.width : CountKind := ⟨"width", Nat.pow 2 63 - 1, "ssize_t"⟩

/-- The precision of an argument. -/
def CountKind.precision : CountKind := ⟨"precision", Nat.pow 2 31 - 1, "int"⟩

/-- Another digit of a count. -/
def CountKind.shifted (k : CountKind) (n : Nat) (c : Char) : Except FormatError Nat :=
  let n := n * 10 + (c.toNat - '0'.toNat)
  if k.max < n then .error (.countTooBig k.name) else .ok n

/-- The next argument as a count. -/
def CountKind.take (k : CountKind) (s : Supply) : Except FormatError (Int × Supply) := do
  let (n, s) ← s.count
  if -(k.max : Int) - 1 ≤ n ∧ n ≤ k.max then return (n, s) else throw (.countOutOfRange k.range)

namespace Stage

def isStart : Stage → Bool
  | start => true
  | _ => false

/-- The layout that a directive has come to. -/
def layout : Stage → Layout
  | start | key _ _ => {}
  | flags l | width l | point l | precision l | places l | size l | letter l => l

/-- The name of a size says nothing. -/
def afterPlaces (l : Layout) (s : Supply) (c : Char) : Option (Stage × Supply) :=
  if c = 'h' ∨ c = 'l' ∨ c = 'L' then some (letter l, s) else none

def afterWidth (l : Layout) (s : Supply) (c : Char) : Option (Stage × Supply) :=
  if c = '.' then some (precision { l with precision := some 0 }, s) else afterPlaces l s c

def afterFlags (l : Layout) (s : Supply) (c : Char) :
    Except FormatError (Option (Stage × Supply)) := do
  if c = '*' then
    let (n, s) ← CountKind.width.take s
    return some (point { l with left := l.left || decide (n < 0), width := n.natAbs }, s)
  if c.isDigit then return some (width { l with width := ← CountKind.width.shifted 0 c }, s)
  return afterWidth l s c

/-- The next stage after a character that belongs to a directive, unless it is its letter. -/
def next? (stage : Stage) (s : Supply) (c : Char) :
    Except FormatError (Option (Stage × Supply)) := do
  match stage with
  | start =>
    if c = '(' then
      if s.named.isNone then throw .needsKeys
      return some (key 0 [], s)
    next? (flags {}) s c
  | key depth read =>
    if c = ')' then
      match depth with
      | 0 => return some (flags {}, ← s.choose read.reverse)
      | depth + 1 => return some (key depth (c :: read), s)
    return some (key (if c = '(' then depth + 1 else depth) (c :: read), s)
  | flags l =>
    match l.flag? c with
    | some l => return some (flags l, s)
    | none => afterFlags l s c
  | width l =>
    if c.isDigit then
      return some (width { l with width := ← CountKind.width.shifted l.width c }, s)
    return afterWidth l s c
  | point l => return afterWidth l s c
  | precision l =>
    if c = '*' then
      let (n, s) ← CountKind.precision.take s
      return some (size { l with precision := some n.toNat }, s)
    if c.isDigit then
      return some (places { l with precision := some (← CountKind.precision.shifted 0 c) }, s)
    return afterPlaces l s c
  | places l =>
    if c.isDigit then
      let n ← CountKind.precision.shifted (l.precision.getD 0) c
      return some (places { l with precision := some n }, s)
    return afterPlaces l s c
  | size l => return afterPlaces l s c
  | letter _ => return none
termination_by match stage with
  | start => 1
  | _ => 0

end Stage

/-- Write a message from a place on; `stage?` is the directive that is being read. -/
def formatFrom (stage? : Option Stage) (supply : Supply) (index : Nat) :
    Text → Except FormatError Text
  | [] =>
    match stage? with
    | some (.key _ _) => .error .incompleteKey
    | some _ => .error .incomplete
    | none => if supply.items.isEmpty || supply.named.isSome then .ok [] else .error .tooManyArguments
  | c :: s =>
    match stage? with
    | none =>
      if c = '%' then formatFrom (some .start) supply (index + 1) s
      else (formatFrom none supply (index + 1) s).map (c :: ·)
    | some stage => do
      if stage.isStart && c = '%' then
        return '%' :: (← formatFrom none supply (index + 1) s)
      match ← stage.next? supply c with
      | some (stage, supply) => formatFrom (some stage) supply (index + 1) s
      | none =>
        let (d, supply) ← supply.next
        let written ← convert stage.layout c index d
        return written ++ (← formatFrom none supply (index + 1) s)

/-- The arguments of a message. -/
def Supply.ofArguments : List Datum → Supply
  | [.table (e :: es)] => { items := [.table (e :: es)], named := some (e :: es) }
  | items => { items }

/-- Write a message. Without arguments a percent sign stands for itself. -/
def format (message : Text) (args : List Datum) : Except FormatError Text :=
  if args.isEmpty then .ok message else formatFrom none (.ofArguments args) 0 message

end Letterhead.Log

import Letterhead.Text.Blank
import Letterhead.Text.WordChar

/-
  Whole numbers as people write them: blank space around, a sign, a mark of the base, digits of any
  script, and underscores between digits.
-/

namespace Letterhead.Whole

/-- White space among the ASCII characters. -/
def isAsciiSpace (c : Char) : Bool := c == ' ' || (9 ≤ c.toNat && c.toNat ≤ 13)

/-- A character with its script left out: digits and spaces become those of ASCII, and no other
character beyond ASCII can be part of a number. -/
def plainChar? (c : Char) : Option Char :=
  if c.toNat < 0x7F then some c
  else if isBlank c then some ' '
  else (digitValue? c).map fun n => Char.ofNat ('0'.toNat + n)

/-- A text without the white space around it, in ASCII. -/
def plain? (s : Text) : Option Text :=
  (s.mapM plainChar?).map fun t => ((t.dropWhile isAsciiSpace).reverse.dropWhile isAsciiSpace).reverse

/-- The value of a character as a digit; letters go on after nine. -/
def digit? (c : Char) : Option Nat :=
  if c.isDigit then some (c.toNat - '0'.toNat)
  else if 'a' ≤ c ∧ c ≤ 'z' then some (c.toNat - 'a'.toNat + 10)
  else if 'A' ≤ c ∧ c ≤ 'Z' then some (c.toNat - 'A'.toNat + 10)
  else none

/-- The value of a character as a digit of a base. -/
def digitOf? (base : Nat) (c : Char) : Option Nat := (digit? c).filter (· < base)

/-- Read digits after a number that has been read; between two digits an underscore may stand. -/
def digitsFrom? (base n : Nat) : Text → Option Nat
  | [] => some n
  | '_' :: c :: s => do digitsFrom? base (n * base + (← digitOf? base c)) s
  | c :: s => do digitsFrom? base (n * base + (← digitOf? base c)) s

/-- Read digits, of which there is one at least. -/
def digits? (base : Nat) : Text → Option Nat
  | [] => none
  | c :: s => do digitsFrom? base (← digitOf? base c) s

/-- The letters that mark a base after a zero. -/
def baseLetters (base : Nat) : List Char :=
  if base = 16 then ['x', 'X'] else if base = 8 then ['o', 'O'] else if base = 2 then ['b', 'B'] else []

/-- Leave out the mark of a base, with an underscore after it. -/
def dropBase (base : Nat) (s : Text) : Text :=
  match s with
  | '0' :: c :: t =>
    if (baseLetters base).contains c then
      match t with
      | '_' :: t => t
      | t => t
    else s
  | s => s

/-- The number of digits that a decimal number may have. -/
def maxDecimals : Nat := 4300

/-- Whether a number has no more decimal digits than may be written. -/
def isWritable (n : Int) : Bool := n.natAbs < Nat.pow 10 maxDecimals

/-- What is said of a number with more digits than may be written. -/
def unwritableMessage : String :=
  s!"Exceeds the limit ({maxDecimals} digits) for integer string conversion; " ++
    "use sys.set_int_max_str_digits() to increase the limit"

/-- What is said of a decimal number with too many digits. -/
def tooLongMessage (digits : Nat) : String :=
  s!"Exceeds the limit ({maxDecimals} digits) for integer string conversion: " ++
    s!"value has {digits} digits; use sys.set_int_max_str_digits() to increase the limit"

/-- Read a number in a base. -/
def ofText? (base : Nat) (s : Text) : Option Int := do
  let t ← plain? s
  let (negative, t) := match t with
    | '-' :: t => (true, t)
    | '+' :: t => (false, t)
    | t => (false, t)
  if base = 10 ∧ maxDecimals < t.countP (· != '_') then none
  let n ← digits? base (dropBase base t)
  return if negative then -n else n

example : ofText? 10 " +1_000\t".toList = some 1000 := by decide +kernel
example : ofText? 16 "-0x_fF".toList = some (-255) := by decide +kernel
example : ofText? 10 "1__0".toList = none := by decide +kernel

end Letterhead.Whole

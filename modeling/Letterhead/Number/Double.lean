import Letterhead.Text.Basic

/-
  Numbers in the binary floating-point format of 64 bits, as exact values, and the number of that
  format that lies nearest to a decimal one. All arithmetic is on natural numbers.
-/

namespace Letterhead

/-- A number of the format: a mantissa of up to 53 bits times a power of two, an infinity, or no
number at all. -/
inductive Double where
  | finite (negative : Bool) (mantissa : Nat) (exponent : Int)
  | infinite (negative : Bool)
  | nan
  deriving DecidableEq, Repr

namespace Double

/-- The exponents of finite numbers. -/
def minExponent : Int := -1074
def maxExponent : Int := 971

def isZero : Double → Bool
  | finite _ mantissa _ => mantissa == 0
  | _ => false

/-- A quotient as the nearest integer; a half goes to the even neighbour. -/
def roundQuotient (num den : Nat) : Nat :=
  let q := num / den
  let twice := 2 * (num % den)
  if den < twice ∨ (den = twice ∧ q % 2 = 1) then q + 1 else q

/-- Numerator and denominator of a quotient divided by a power of two. -/
def divPow (num den : Nat) (e : Int) : Nat × Nat :=
  (num * Nat.pow 2 (-e).toNat, den * Nat.pow 2 e.toNat)

/-- The exponent at which a quotient has a mantissa of 53 bits, or fewer at the least one. -/
def exponentFor (num den : Nat) : Int :=
  let e : Int := (num.log2 : Int) - den.log2 - 53
  let (n, d) := divPow num den e
  max minExponent (if Nat.pow 2 53 ≤ n / d then e + 1 else e)

/-- The number nearest to a quotient. -/
def ofQuotient (negative : Bool) (num den : Nat) : Double :=
  if num = 0 then finite negative 0 minExponent
  else
    let e := exponentFor num den
    let (n, d) := divPow num den e
    let m := roundQuotient n d
    let (m, e) := if m = Nat.pow 2 53 then (Nat.pow 2 52, e + 1) else (m, e)
    if maxExponent < e then infinite negative else finite negative m e

/-- The number nearest to `digits` times a power of ten. Powers far outside the format are settled
before they are computed. -/
def ofDecimal (negative : Bool) (digits : Nat) (exponent : Int) : Double :=
  if digits = 0 ∨ (Nat.toDigits 10 digits).length + exponent < -400 then
    finite negative 0 minExponent
  else if 400 < exponent then infinite negative
  else if 0 ≤ exponent then ofQuotient negative (digits * Nat.pow 10 exponent.toNat) 1
  else ofQuotient negative digits (Nat.pow 10 (-exponent).toNat)

/-! ## Reading -/

/-- The number that a list of decimal digits stands for. -/
def digitsValue (s : Text) : Nat := s.foldl (fun n c => n * 10 + (c.toNat - '0'.toNat)) 0

/-- A sign, and what follows it. -/
def takeSign : Text → Bool × Text
  | '-' :: s => (true, s)
  | '+' :: s => (false, s)
  | s => (false, s)

/-- The power of ten that the end of a written number names; nothing stands for 0. -/
def exponentOf? : Text → Option Int
  | [] => some 0
  | c :: s =>
    if c = 'e' ∨ c = 'E' then
      let (negative, digits) := takeSign s
      if digits ≠ [] ∧ digits.all Char.isDigit then
        some (if negative then -(digitsValue digits : Int) else digitsValue digits)
      else none
    else none

/-- Read decimal digits with perhaps a point among them and an exponent behind them. -/
def ofUnsigned? (negative : Bool) (s : Text) : Option Double :=
  let whole := s.takeWhile Char.isDigit
  let rest := s.dropWhile Char.isDigit
  let (fraction, rest) := match rest with
    | '.' :: t => (t.takeWhile Char.isDigit, t.dropWhile Char.isDigit)
    | _ => ([], rest)
  if whole ++ fraction = [] then none
  else
    (exponentOf? rest).map fun e =>
      ofDecimal negative (digitsValue (whole ++ fraction)) (e - fraction.length)

/-- Read a number: a decimal one, `inf` or `nan`, with perhaps a sign. -/
def ofText? (s : Text) : Option Double :=
  let (negative, t) := takeSign s
  if t = ['i', 'n', 'f'] ∨ t = "infinity".toList then some (infinite negative)
  else if t = ['n', 'a', 'n'] then some nan
  else ofUnsigned? negative t

example : ofText? "1e23".toList = some (finite false 5960464477539062 24) := by decide +kernel
example : ofText? "-4.9e-324".toList = some (finite true 1 (-1074)) := by decide +kernel
example : ofText? "1.7976931348623159e308".toList = some (infinite false) := by decide +kernel

end Double
end Letterhead

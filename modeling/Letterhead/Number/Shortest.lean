import Letterhead.Number.Double

/-
  The shortest decimal text of a number: the fewest digits that read back as the number, and of
  equally many those nearest to it. Numbers from one ten-thousandth up to ten to the sixteenth are
  written without an exponent.
-/

namespace Letterhead.Double

/-- The numbers that read back as `mantissa` times a power of two, in quarters of that power: the
ends of the interval, with the number itself between them. -/
def readBack (mantissa : Nat) (exponent : Int) : Nat × Nat × Nat :=
  let low := if mantissa = Nat.pow 2 52 ∧ minExponent < exponent then 1 else 2
  (4 * mantissa - low, 4 * mantissa, 4 * mantissa + 2)

/-- The multiple of `10 ^ k` nearest to a number, if one of the two around it reads back. The ends
of the interval belong to it when the mantissa is even. -/
def onGrid? (mantissa : Nat) (exponent : Int) (k : Int) : Option Nat :=
  let (low, mid, high) := readBack mantissa exponent
  let num := Nat.pow 2 (exponent - 2).toNat * Nat.pow 10 (-k).toNat
  let den := Nat.pow 2 (2 - exponent).toNat * Nat.pow 10 k.toNat
  let closed := mantissa % 2 = 0
  let inside := fun p =>
    decide (low * num < p * den ∨ (closed ∧ low * num = p * den)) &&
      decide (p * den < high * num ∨ (closed ∧ p * den = high * num))
  let p := mid * num / den
  match inside p, inside (p + 1) with
  | true, true =>
    let nearer := 2 * mid * num
    let middle := (2 * p + 1) * den
    some (if nearer < middle ∨ (nearer = middle ∧ p % 2 = 0) then p else p + 1)
  | true, false => some p
  | false, true => some (p + 1)
  | false, false => none

/-- The powers of ten to try, from one above the number down to one that has seventeen digits. -/
def grids (mantissa : Nat) (exponent : Int) : List Int :=
  let top : Int := ((mantissa.log2 : Int) + exponent) * 30103 / 100000 + 2
  (List.range 22).map fun (i : Nat) => top - i

/-- The shortest digits of a number other than zero, and the power of ten that they count. -/
def shortest (mantissa : Nat) (exponent : Int) : Nat × Int :=
  ((grids mantissa exponent).findSome? fun k => (onGrid? mantissa exponent k).map (·, k)).getD
    (mantissa, 0)

/-- A power of ten as it is written: with a sign and at least two digits. -/
def exponentText (e : Int) : Text :=
  let digits := Nat.toDigits 10 e.natAbs
  'e' :: (if e < 0 then '-' else '+') :: (if digits.length < 2 then '0' :: digits else digits)

/-- Digits with a point, which stands `point` places behind their start. -/
def placed (digits : Text) (point : Int) : Text :=
  if point ≤ -4 ∨ 16 < point then
    match digits with
    | [d] => d :: exponentText (point - 1)
    | d :: ds => d :: '.' :: ds ++ exponentText (point - 1)
    | [] => []
  else if point ≤ 0 then "0.".toList ++ List.replicate (-point).toNat '0' ++ digits
  else
    let n := point.toNat
    if digits.length ≤ n then digits ++ List.replicate (n - digits.length) '0' ++ ".0".toList
    else digits.take n ++ '.' :: digits.drop n

/-- The text of a number without its sign. -/
def magnitudeText (mantissa : Nat) (exponent : Int) : Text :=
  if mantissa = 0 then "0.0".toList
  else
    let (digits, k) := shortest mantissa exponent
    let ds := Nat.toDigits 10 digits
    placed ds (ds.length + k)

/-- The shortest text of a number. -/
def text : Double → Text
  | finite negative mantissa exponent =>
    (if negative then ['-'] else []) ++ magnitudeText mantissa exponent
  | infinite negative => (if negative then ['-'] else []) ++ "inf".toList
  | nan => "nan".toList

example : (ofText? "0.1".toList).map text = some "0.1".toList := by decide +kernel
example : (ofText? "1e16".toList).map text = some "1e+16".toList := by decide +kernel
example : (ofText? "5e-324".toList).map text = some "5e-324".toList := by decide +kernel

end Letterhead.Double

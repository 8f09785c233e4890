import Letterhead.Number.Shortest

/-
  Numbers with a given count of digits: positional with a fixed number of places, scientific with a
  fixed number of digits, and whichever of the two suits the size of the number. All of them round
  the exact value once, and a half goes to the even neighbour.
-/

namespace Letterhead.Double

/-- The nearest whole number to `mantissa * 2 ^ exponent * 10 ^ scale`. -/
def scaled (mantissa : Nat) (exponent scale : Int) : Nat :=
  roundQuotient (mantissa * Nat.pow 2 exponent.toNat * Nat.pow 10 scale.toNat)
    (Nat.pow 2 (-exponent).toNat * Nat.pow 10 (-scale).toNat)

/-- A point before the last `places` digits. Without places there is a point only on demand. -/
def withPoint (keepsPoint : Bool) (places : Nat) (digits : Text) : Text :=
  if places = 0 then digits ++ if keepsPoint then ['.'] else []
  else
    let padded := List.replicate (places + 1 - digits.length) '0' ++ digits
    let whole := padded.length - places
    padded.take whole ++ '.' :: padded.drop whole

/-- A number with a fixed number of decimal places, without its sign. -/
def fixedText (keepsPoint : Bool) (mantissa : Nat) (exponent : Int) (places : Nat) : Text :=
  withPoint keepsPoint places (Nat.toDigits 10 (scaled mantissa exponent places))

/-- The power of ten of the first of `count` digits, and the digits. It is the least power for which
that many digits are enough. -/
def leading (mantissa : Nat) (exponent : Int) (count : Nat) : Int × Nat :=
  if mantissa = 0 then (0, 0)
  else
    let top : Int := ((mantissa.log2 : Int) + exponent) * 30103 / 100000 + 2
    let digits := fun (power : Int) => scaled mantissa exponent (count - 1 - power)
    let powers := (List.range 5).map fun (i : Nat) => top - 4 + i
    let power := (powers.find? fun p => digits p < Nat.pow 10 count).getD top
    (power, digits power)

/-- A number with one digit before the point and a fixed number of places, without its sign. -/
def scientificText (keepsPoint : Bool) (mantissa : Nat) (exponent : Int) (places : Nat) : Text :=
  let (power, digits) := leading mantissa exponent (places + 1)
  withPoint keepsPoint places (Nat.toDigits 10 digits) ++ exponentText power

/-- Drop the zeros at the end of decimal places. -/
def dropZeros (s : Text) : Text :=
  if s.contains '.' then
    let kept := (s.reverse.dropWhile (· == '0')).reverse
    if kept.getLast? = some '.' then kept.dropLast else kept
  else s

/-- A number with `count` digits, scientific when it is very small or has more digits before the
point, without its sign. The zeros at the end of the places, and the point, are kept on demand. -/
def generalText (keepsPoint : Bool) (mantissa : Nat) (exponent : Int) (count : Nat) : Text :=
  let (power, digits) := leading mantissa exponent count
  let trimmed := fun (s : Text) => if keepsPoint then s else dropZeros s
  if -4 ≤ power ∧ power < count then
    trimmed (fixedText keepsPoint mantissa exponent ((count : Int) - 1 - power).toNat)
  else
    trimmed (withPoint keepsPoint (count - 1) (Nat.toDigits 10 digits)) ++ exponentText power

end Letterhead.Double

import Letterhead.Text.Codec.Wide
import Letterhead.Text.Lower

/-
  Punycode: the ASCII characters of a text, and after the last hyphen the others with their places,
  packed into letters and digits. Names of domains use it in those of their labels that begin with
  `xn--`.
-/

namespace Letterhead.Punycode

/-- The value of a digit of base 36: letters come before digits. -/
def digit? (b : Nat) : Option Nat :=
  if 0x41 ≤ b ∧ b ≤ 0x5A then some (b - 0x41)
  else if 0x61 ≤ b ∧ b ≤ 0x7A then some (b - 0x61)
  else if 0x30 ≤ b ∧ b ≤ 0x39 then some (b - 0x30 + 26)
  else none

/-- The threshold of a digit at a place: the first digit below it is the last one. -/
def threshold (place bias : Nat) : Nat := min 26 (max 1 (36 * (place + 1) - bias))

/-- Read a number; the weight is that of the next digit. -/
def number? (bias : Nat) : Nat → Nat → Nat → List Nat → Option (Nat × List Nat)
  | _, _, _, [] => none
  | place, weight, n, b :: r => do
    let d ← digit? b
    let t := threshold place bias
    let n := n + d * weight
    if d < t then some (n, r) else number? bias (place + 1) (weight * (36 - t)) n r

/-- The greatest remainder that needs no further division. -/
def maxRemainder : Nat := 455

/-- Divide by 35 down to the greatest remainder; 36 is counted for each division. -/
def settle : Nat → Nat → Nat → Nat
  | 0, bias, _ => bias
  | fuel + 1, bias, n =>
    if maxRemainder < n then settle fuel (bias + 36) (n / 35) else bias + 36 * n / (n + 38)

/-- The bias after a number was read, for a text of some length. -/
def adapt (n : Nat) (first : Bool) (length : Nat) : Nat :=
  let n := if first then n / 700 else n / 2
  settle n 0 (n + n / length)

/-- Insert the characters that the packed part describes. `place` is that after the last insertion,
`code` the character inserted there. -/
def insertAll (fuel bias code place : Nat) (first : Bool) (codes packed : List Nat) :
    Except DecodeFault (List Nat) :=
  match fuel, packed with
  | _, [] => .ok codes
  | 0, _ => .error .refused
  | fuel + 1, packed =>
    match number? bias 0 1 0 packed with
    | none => .error .refused
    | some (n, rest) =>
      let length := codes.length + 1
      let code := code + (place + n) / length
      let at' := (place + n) % length
      if 0x110000 ≤ code then .error .refused
      else
        insertAll fuel (adapt n first length) code (at' + 1) false
          (codes.take at' ++ code :: codes.drop at') rest

/-- The code points of bytes. -/
def codes (bytes : List Nat) : Except DecodeFault (List Nat) :=
  if bytes.any (0x80 ≤ ·) then .error .malformed
  else
    let packed := (bytes.reverse.takeWhile (· ≠ 0x2D)).reverse
    let basic := bytes.take (bytes.length - packed.length - 1)
    insertAll packed.length 72 0x80 0 true basic packed

def ofCodes (codes : List Nat) : Except DecodeFault Text := Wide.valid (ofCodes? codes)

/-- The text of bytes. -/
def decode (bytes : List Nat) : Except DecodeFault Text := do ofCodes (← codes bytes)

/-! ## Labels -/

/-- The mark of a packed label. -/
def labelMark : Text := "xn--".toList

/-- The greatest length of a packed label. -/
def maxLabel : Nat := 63

/-- The text of a label. A packed one is refused if packing its text would not give it back: it is
too long, holds ASCII alone or has capital letters. -/
def decodeLabel (label : Text) : Except DecodeFault Text :=
  match Text.after? labelMark label with
  | none => .ok label
  | some packed => do
    let s ← decode (packed.map Char.toNat)
    if maxLabel < label.length ∨ s.all (·.toNat < 0x80) ∨ Text.lower s ≠ s then throw .refused
    return s

/-- The text of labels with dots between them. -/
def decodeLabels (bytes : List Nat) : Except DecodeFault Text :=
  if bytes.any (0x80 ≤ ·) then .error .malformed
  else
    return Text.joinWith ['.'] (← (Text.splitOn ['.'] (bytes.map Char.ofNat)).mapM decodeLabel)

end Letterhead.Punycode

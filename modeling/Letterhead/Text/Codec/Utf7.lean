import Letterhead.Text.Codec.Wide

/-
  UTF-7: bytes below 0x80 as they are, and the others in stretches of base 64 that begin with a plus
  sign and hold UTF-16.
-/

namespace Letterhead.Utf7

/-- The value of a digit of base 64. -/
def digit? (b : Nat) : Option Nat :=
  if 0x41 ≤ b ∧ b ≤ 0x5A then some (b - 0x41)
  else if 0x61 ≤ b ∧ b ≤ 0x7A then some (b - 0x61 + 26)
  else if 0x30 ≤ b ∧ b ≤ 0x39 then some (b - 0x30 + 52)
  else if b = 0x2B then some 62
  else if b = 0x2F then some 63
  else none

/-- The bits of a stretch that make no whole unit yet: their number and their value. -/
structure Bits where
  count : Nat := 0
  value : Nat := 0

/-- Whether a stretch can end with some bits: fewer than a digit, and all zero. -/
def Bits.canEnd (b : Bits) : Bool := b.count < 6 && b.value == 0

/-- Read bytes as UTF-16 units and characters; the bits are those of an open stretch. -/
def codes? : Option Bits → List Nat → Option (List Nat)
  | none, [] => some []
  | some bits, [] => if bits.canEnd then some [] else none
  | none, 0x2B :: 0x2D :: r => (codes? none r).map (0x2B :: ·)
  | none, b :: r =>
    if b = 0x2B then
      match r with
      | [] => codes? (some {}) r
      | d :: _ => if (digit? d).isSome then codes? (some {}) r else none
    else if b < 0x80 then (codes? none r).map (b :: ·)
    else none
  | some bits, b :: r =>
    match digit? b with
    | some d =>
      let count := bits.count + 6
      let value := bits.value * 64 + d
      if count < 16 then codes? (some ⟨count, value⟩) r
      else
        let rest := Nat.pow 2 (count - 16)
        (codes? (some ⟨count - 16, value % rest⟩) r).map (value / rest :: ·)
    | none =>
      if !bits.canEnd then none
      else if b = 0x2D then codes? none r
      else if b < 0x80 then (codes? none r).map (b :: ·)
      else none

/-- The text of bytes. -/
def decode? (bytes : List Nat) : Option Text := (codes? none bytes).bind ofCodes?

end Letterhead.Utf7

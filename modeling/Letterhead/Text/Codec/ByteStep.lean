import Letterhead.Text.Basic

/-
  Reading bytes step by step. A step begins at a byte, may look at those after it, and says what it
  reads, how many more bytes it takes, and the state that it leaves.
-/

namespace Letterhead

/-- A step of a reader: from a state, a byte and the bytes after it to the text that it reads, the
number of bytes that it takes beyond the first, and the next state. -/
abbrev ByteStep (σ : Type) := σ → Nat → List Nat → Option (Text × Nat × σ)

/-- Take steps up to the end of the bytes; the number counts the bytes that the last step took and
that are still to be passed over. -/
def ByteStep.readFrom {σ : Type} (step : ByteStep σ) : Nat → σ → List Nat → Option (Text × σ)
  | _, s, [] => some ([], s)
  | skip + 1, s, _ :: bytes => readFrom step skip s bytes
  | 0, s, b :: bytes => do
    let (t, more, s) ← step s b bytes
    let (r, s) ← readFrom step more s bytes
    return (t ++ r, s)

/-- The text of bytes, and the state at their end. -/
def ByteStep.read {σ : Type} (step : ByteStep σ) (s : σ) (bytes : List Nat) :
    Option (Text × σ) :=
  readFrom step 0 s bytes

/-- Codes of one byte or of two. -/
structure PairCode where
  single : Nat → Option Char
  pair : Nat → Nat → Option Text

/-- One code is read at a time; a byte that is a code by itself is not the first of two. -/
def PairCode.step (c : PairCode) : ByteStep Unit := fun _ b bytes =>
  match c.single b, bytes with
  | some d, _ => some ([d], 0, ())
  | none, b' :: _ => (c.pair b b').map fun t => (t, 1, ())
  | none, [] => none

/-- The character of a byte below 0x80. -/
def asciiChar? (b : Nat) : Option Char := if b < 0x80 then some (Char.ofNat b) else none

end Letterhead

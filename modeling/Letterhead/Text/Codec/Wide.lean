import Letterhead.Text.Codec.ByteStep

/-
  UTF-16 and UTF-32: characters as units of two or four bytes, the high byte first or last. Where
  the order is left open a mark at the start tells it.
-/

namespace Letterhead

/-- Why bytes give no text: they are not valid, or the encoding refuses them as a whole. -/
inductive DecodeFault where
  | malformed
  | refused
  deriving DecidableEq, Repr

/-- The text of code points, where two surrogates make one character and none stands alone. -/
def ofCodes? : List Nat → Option Text
  | [] => some []
  | a :: r =>
    if 0xD800 ≤ a ∧ a < 0xDC00 then
      match r with
      | b :: r =>
        if 0xDC00 ≤ b ∧ b < 0xE000 then
          (ofCodes? r).map (Char.ofNat (0x10000 + (a - 0xD800) * 0x400 + (b - 0xDC00)) :: ·)
        else none
      | [] => none
    else if (0xDC00 ≤ a ∧ a < 0xE000) ∨ 0x110000 ≤ a then none
    else (ofCodes? r).map (Char.ofNat a :: ·)

/-- The text of code points that have to be characters. -/
def ofScalars? (codes : List Nat) : Option Text :=
  if codes.any fun n => 0xD800 ≤ n && n < 0xE000 then none else ofCodes? codes

namespace Wide

/-- The units of two bytes. -/
def units16? (big : Bool) : List Nat → Option (List Nat)
  | [] => some []
  | a :: b :: r => (units16? big r).map ((if big then a * 256 + b else b * 256 + a) :: ·)
  | [_] => none

/-- The units of four bytes. -/
def units32? (big : Bool) : List Nat → Option (List Nat)
  | [] => some []
  | a :: b :: c :: d :: r =>
    let (a, b, c, d) := if big then (d, c, b, a) else (a, b, c, d)
    (units32? big r).map ((a + 0x100 * (b + 0x100 * (c + 0x100 * d))) :: ·)
  | _ => none

def decode16? (big : Bool) (bytes : List Nat) : Option Text := (units16? big bytes).bind ofCodes?

def decode32? (big : Bool) (bytes : List Nat) : Option Text := (units32? big bytes).bind ofScalars?

/-- Text without a mark is refused, if it would be valid. -/
def withoutMark : Option Text → Except DecodeFault Text
  | none => .error .malformed
  | some [] => .ok []
  | some _ => .error .refused

def valid : Option Text → Except DecodeFault Text
  | none => .error .malformed
  | some s => .ok s

/-- The text of bytes in UTF-16, whose order may be left open. -/
def decode16 (big : Option Bool) (bytes : List Nat) : Except DecodeFault Text :=
  match big, bytes with
  | some big, _ => valid (decode16? big bytes)
  | none, 0xFF :: 0xFE :: r => valid (decode16? false r)
  | none, 0xFE :: 0xFF :: r => valid (decode16? true r)
  | none, _ => withoutMark (decode16? false bytes)

/-- The text of bytes in UTF-32, whose order may be left open. -/
def decode32 (big : Option Bool) (bytes : List Nat) : Except DecodeFault Text :=
  match big, bytes with
  | some big, _ => valid (decode32? big bytes)
  | none, 0xFF :: 0xFE :: 0 :: 0 :: r => valid (decode32? false r)
  | none, 0 :: 0 :: 0xFE :: 0xFF :: r => valid (decode32? true r)
  | none, _ => withoutMark (decode32? false bytes)

end Wide
end Letterhead

import Letterhead.Text.CharName.Basic
import Letterhead.Text.Codec.Wide

/-
  Text with escape sequences, where all other bytes are the characters with their numbers. The raw
  form knows only the sequences that give a character by its number.
-/

namespace Letterhead.Escapes

/-- The value of a hexadecimal digit. -/
def hexDigit? (b : Nat) : Option Nat :=
  if 0x30 ≤ b ∧ b ≤ 0x39 then some (b - 0x30)
  else if 0x41 ≤ b ∧ b ≤ 0x46 then some (b - 0x41 + 10)
  else if 0x61 ≤ b ∧ b ≤ 0x66 then some (b - 0x61 + 10)
  else none

/-- The number that exactly `n` hexadecimal digits give. -/
def hex? (n : Nat) (bytes : List Nat) : Option Nat :=
  if bytes.length < n then none
  else (bytes.take n).foldlM (fun m b => return 16 * m + (← hexDigit? b)) 0

/-- A code point by its number in `n` digits, and the number of bytes that it takes. -/
def numbered? (n : Nat) (bytes : List Nat) : Option (List Nat × Nat) := do
  let code ← hex? n bytes
  if code < 0x110000 then some ([code], n) else none

/-- The octal digits, at most `n`, that bytes begin with. -/
def octal (n : Nat) (bytes : List Nat) : List Nat :=
  (bytes.take n).takeWhile fun b => 0x30 ≤ b && b ≤ 0x37

/-- A code point by its name in braces. -/
def named? (bytes : List Nat) : Option (List Nat × Nat) :=
  match bytes with
  | 0x7B :: r => do
    let name := r.takeWhile (· ≠ 0x7D)
    if name.length = r.length then none
    return ([← CharName.find? (name.map Char.ofNat)], name.length + 2)
  | _ => none

/-- What a letter after a backslash stands for. -/
def letters : List (Nat × List Nat) :=
  [(0x0A, []), (0x5C, [0x5C]), (0x27, [0x27]), (0x22, [0x22]), (0x62, [8]), (0x66, [12]),
    (0x74, [9]), (0x6E, [10]), (0x72, [13]), (0x76, [11]), (0x61, [7])]

/-- The code points of an escape sequence after its backslash, and its length. One that is not known
is read as it is written. -/
def sequence? (raw : Bool) (b : Nat) (bytes : List Nat) : Option (List Nat × Nat) :=
  let more := fun (p : List Nat × Nat) => (p.1, p.2 + 1)
  if b = 0x75 then (numbered? 4 bytes).map more
  else if b = 0x55 then (numbered? 8 bytes).map more
  else if raw then some ([0x5C, b], 1)
  else if b = 0x78 then (numbered? 2 bytes).map more
  else if b = 0x4E then (named? bytes).map more
  else
    match octal 3 (b :: bytes) with
    | [] => some ((letters.lookup b).getD [0x5C, b], 1)
    | digits => some ([digits.foldl (fun n d => 8 * n + (d - 0x30)) 0], digits.length)

/-- The code points of bytes; the number counts those that are already read. -/
def codesFrom? (raw : Bool) : Nat → List Nat → Option (List Nat)
  | _, [] => some []
  | skip + 1, _ :: bytes => codesFrom? raw skip bytes
  | 0, b :: bytes =>
    if b ≠ 0x5C then (codesFrom? raw 0 bytes).map (b :: ·)
    else
      match bytes with
      | [] => if raw then some [b] else none
      | b' :: r => do
        let (codes, n) ← sequence? raw b' r
        return codes ++ (← codesFrom? raw n bytes)

/-- The text of bytes. A sequence can name a surrogate, and then the code points are no text. -/
def decode? (raw : Bool) (bytes : List Nat) : Option Text :=
  (codesFrom? raw 0 bytes).bind ofScalars?

end Letterhead.Escapes

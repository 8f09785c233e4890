import Letterhead.Text.Codec.ByteStep
import Letterhead.Text.Codec.KsChart

/-
  Korean encodings. A syllable is made of an initial, a vowel and perhaps a final; the chart has the
  common ones, and each encoding has its own way to write the others.
-/

namespace Letterhead

/-- The Korean encodings: with made-up syllables, with all syllables, and with the letters of a
syllable in the bits of its code. -/
inductive Korean where
  | chart
  | windows
  | lettered
  deriving DecidableEq, Repr

namespace Korean

/-! ## Syllables -/

/-- The syllable of an initial, a vowel and a final; 0 is no final. -/
def syllable (initial vowel final : Nat) : Char :=
  Char.ofNat (0xAC00 + initial * 588 + vowel * 28 + final)

/-- The consonants of the chart, as initials and as finals. -/
def initials : List (Option Nat) :=
  [some 0, some 1, none, some 2, none, none, some 3, some 4, some 5, none, none, none, none, none,
    none, none, some 6, some 7, some 8, none, some 9, some 10, some 11, some 12, some 13, some 14,
    some 15, some 16, some 17, some 18]

def finals : List (Option Nat) :=
  [some 1, some 2, some 3, some 4, some 5, some 6, some 7, none, some 8, some 9, some 10, some 11,
    some 12, some 13, some 14, some 15, some 16, some 17, none, some 18, some 19, some 20, some 21,
    some 22, none, some 23, some 24, some 25, some 26, some 27]

/-- The byte of the letter that fills an empty place, and the byte that all letters begin with. -/
def filler : Nat := 0xD4

def letterByte : Nat := 0xA4

/-- A syllable made up of a filler and three letters, after its first byte. -/
def madeUp? (bytes : List Nat) : Option Char :=
  match bytes with
  | _ :: 0xA4 :: a :: 0xA4 :: b :: 0xA4 :: c :: _ => do
    let initial ← if 0xA1 ≤ a then (initials[a - 0xA1]?).join else none
    let vowel ← if 0xBF ≤ b ∧ b ≤ 0xD3 then some (b - 0xBF) else none
    let final ← if c = filler then some 0 else if 0xA1 ≤ c then (finals[c - 0xA1]?).join else none
    return syllable initial vowel final
  | _ => none

/-- Reading the chart, with made-up syllables. -/
def chartStep : ByteStep Unit := fun _ b bytes =>
  if b < 0x80 then some ([Char.ofNat b], 0, ())
  else
    match bytes with
    | b' :: _ =>
      if b = letterByte ∧ b' = filler then (madeUp? bytes).map fun c => ([c], 7, ())
      else do return ([← Chart.ksX1001.at? (← Chart.square? 0xA1 b b')], 1, ())
    | [] => none

/-! ## All syllables -/

/-- The syllables of the chart, by their place among all. -/
def charted : List Nat :=
  (Chart.ksX1001.flatMap fun (_, chars) => chars.toList.map Char.toNat).filterMap fun n =>
    if 0xAC00 ≤ n ∧ n ≤ 0xD7A3 then some (n - 0xAC00) else none

/-- The number of syllables. -/
def syllableCount : Nat := 11172

/-- The place of a second byte among the letters and the bytes from 0x81 on. -/
def column? (b : Nat) : Option Nat :=
  if 0x41 ≤ b ∧ b ≤ 0x5A then some (b - 0x41)
  else if 0x61 ≤ b ∧ b ≤ 0x7A then some (b - 0x61 + 26)
  else if 0x81 ≤ b ∧ b ≤ 0xFE then some (b - 0x81 + 52)
  else none

/-- The syllables that are not in the chart follow each other before it and left of it. -/
def otherSyllable? (a b : Nat) : Option Char := do
  let column ← column? b
  let n ← if 0x81 ≤ a ∧ a ≤ 0xA0 then some (178 * (a - 0x81) + column)
    else if 0xA1 ≤ a ∧ a ≤ 0xC6 ∧ column < 84 then some (178 * 32 + 84 * (a - 0xA1) + column)
    else none
  let place := Chart.freePlace charted n
  if place < syllableCount then some (Char.ofNat (0xAC00 + place)) else none

def windowsPair? (a b : Nat) : Option Text :=
  match Chart.square? 0xA1 a b with
  | some cell => (Chart.ksX1001.at? cell).map ([·])
  | none => (otherSyllable? a b).map ([·])

/-! ## Letters in bits -/

/-- What five bits can say: a letter with its number among its kind and as a letter by itself, or
that there is none. -/
inductive Slot where
  | letter (number code : Nat)
  | empty
  deriving DecidableEq, Repr

/-- The slot of some bits: those before `first` are the empty one and none, and letters follow. -/
def initial? (bits : Nat) : Option Slot :=
  if bits = 1 then some .empty
  else if bits < 2 then none
  else
    ([0x3131, 0x3132, 0x3134, 0x3137, 0x3138, 0x3139, 0x3141, 0x3142, 0x3143, 0x3145, 0x3146,
      0x3147, 0x3148, 0x3149, 0x314A, 0x314B, 0x314C, 0x314D, 0x314E][bits - 2]?).map
        (.letter (bits - 2))

def vowel? (bits : Nat) : Option Slot :=
  if bits = 2 then some .empty
  else
    let places := [3, 4, 5, 6, 7, 10, 11, 12, 13, 14, 15, 18, 19, 20, 21, 22, 23, 26, 27, 28, 29]
    (places.idxOf? bits).map fun n => .letter n (0x314F + n)

def final? (bits : Nat) : Option Slot :=
  if bits = 1 then some .empty
  else
    let places := (List.range 16).map (· + 2) ++ (List.range 11).map (· + 19)
    let codes := [0x3131, 0x3132, 0x3133, 0x3134, 0x3135, 0x3136, 0x3137, 0x3139, 0x313A, 0x313B,
      0x313C, 0x313D, 0x313E, 0x313F, 0x3140, 0x3141, 0x3142, 0x3144, 0x3145, 0x3146, 0x3147,
      0x3148, 0x314A, 0x314B, 0x314C, 0x314D, 0x314E]
    (places.idxOf? bits).bind fun n => (codes[n]?).map (.letter (n + 1))

/-- The character of three slots: a syllable, a letter by itself, or a blank. -/
def ofSlots? : Slot → Slot → Slot → Option Char
  | .letter i _, .letter v _, .letter f _ => some (syllable i v f)
  | .letter i _, .letter v _, .empty => some (syllable i v 0)
  | .letter _ n, .empty, .empty | .empty, .letter _ n, .empty | .empty, .empty, .letter _ n =>
    some (Char.ofNat n)
  | .empty, .empty, .empty => some (Char.ofNat 0x3000)
  | _, _, _ => none

/-- The cell of a sign or an ideograph: two rows lie under each first byte. -/
def signCell? (a b : Nat) : Option Nat := do
  let row ← if 0xD9 ≤ a ∧ a ≤ 0xDE then some (2 * (a - 0xD9))
    else if 0xE0 ≤ a ∧ a ≤ 0xF9 then some (2 * (a - 0xE0) + 41) else none
  let column ← if 0x31 ≤ b ∧ b ≤ 0x7E then some (b - 0x31)
    else if 0x91 ≤ b ∧ b ≤ 0xFE then some (b - 0x43) else none
  if a = 0xDA ∧ 0xA1 ≤ b ∧ b ≤ 0xD3 then none else return 94 * row + column

def letteredPair? (a b : Nat) : Option Text :=
  if a < 0xD8 then do
    let bits := a * 256 + b
    return [← ofSlots? (← initial? (bits / 1024 % 32)) (← vowel? (bits / 32 % 32))
      (← final? (bits % 32))]
  else do return [← Chart.ksX1001.at? (← signCell? a b)]

/-! ## Decoding -/

/-- Reading an encoding. -/
def step : Korean → ByteStep Unit
  | chart => chartStep
  | windows => PairCode.step ⟨asciiChar?, windowsPair?⟩
  | lettered => PairCode.step ⟨asciiChar?, letteredPair?⟩

end Korean
end Letterhead

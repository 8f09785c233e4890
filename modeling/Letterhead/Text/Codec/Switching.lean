import Letterhead.Text.Codec.Chinese
import Letterhead.Text.Codec.Japanese
import Letterhead.Text.Codec.Korean

/-
  Encodings that switch between character sets. Escape sequences designate up to three sets; the
  first is in use, the second while shifted, and the third for single characters.
-/

namespace Letterhead

/-! ## Sets that can be designated -/

/-- A character set with one or two bytes below 0x80 for each character. -/
inductive SwitchSet where
  | ascii
  | jisRoman
  | jisKana
  | jisX0208
  | jisX0212
  | jisX0213 (revised : Bool)
  | jisX0213Second
  | ksX1001
  | gb2312
  | latin
  | greek
  deriving DecidableEq, Repr

namespace SwitchSet

/-- Whether the characters of a set have two bytes. -/
def isWide : SwitchSet → Bool
  | ascii | jisRoman | jisKana | latin | greek => false
  | _ => true

/-- The character of one byte. -/
def single? (s : SwitchSet) (b : Nat) : Option Char :=
  match s with
  | ascii => some (Char.ofNat b)
  | jisRoman => some (if b = 0x5C then '¥' else if b = 0x7E then '‾' else Char.ofNat b)
  | jisKana => Japanese.halfWidth? (b + 0x80)
  | _ => none

/-- The characters of two bytes. -/
def pair? (s : SwitchSet) (a b : Nat) : Option Text := do
  let cell ← Chart.square? 0x21 a b
  match s with
  | jisX0208 => return [← Chart.jisX0208.at? cell]
  | jisX0212 => return [← Chart.jisX0212.at? cell]
  | jisX0213 revised => Japanese.firstPlane? revised cell
  | jisX0213Second => Japanese.secondPlane? true cell
  | ksX1001 => return [← Chart.ksX1001.at? cell]
  | gb2312 => return [← Chart.gb2312.at? cell]
  | _ => none

/-- The upper half of Latin and Greek, which lacks some signs of later editions. -/
def upper? (s : SwitchSet) (b : Nat) : Option Char :=
  match s with
  | ascii => if b < 0x80 then some (Char.ofNat b) else none
  | latin => if b < 0x80 then some (Char.ofNat (b + 0x80)) else none
  | greek =>
    let n := if b < 0x80 then b + 0x80 else b - 0x80
    if n < 0xA0 ∨ n ∈ [0xA0, 0xA3, 0xA6, 0xA7, 0xA8, 0xA9, 0xAB, 0xAC, 0xAD, 0xB0, 0xB1, 0xB2, 0xB3,
        0xB7, 0xBB, 0xBD] then some (Char.ofNat n)
    else if n = 0xA1 then some '‘'
    else if n = 0xA2 then some '’'
    else if n = 0xAF then some '―'
    else if 0xB4 ≤ n ∧ n ≤ 0xFE ∧ n ≠ 0xD2 then some (Char.ofNat (n + 0x2D0))
    else none
  | _ => none

end SwitchSet

/-! ## Encodings -/

/-- An encoding with escape sequences: its sets, each with the letter that designates it, and
whether it shifts, has a third set, and knows the long designation of JIS X 0208. -/
structure Switching where
  name : String
  aliases : List String
  sets : List (Char × SwitchSet)
  shifts : Bool := false
  hasThird : Bool := false
  hasLong : Bool := true
  deriving DecidableEq, Repr

namespace Switching

/-- The sets in use. -/
structure State where
  first : SwitchSet := .ascii
  second : SwitchSet := .ascii
  third : SwitchSet := .ascii
  shifted : Bool := false
  unknown : Bool := false

/-- Whether a byte ends an escape sequence. -/
def isFinal (b : Nat) : Bool := (0x41 ≤ b && b ≤ 0x5A) || b == 0x40

/-- The set that a final byte designates. -/
def set? (c : Switching) (wide : Bool) (final : Nat) : Option SwitchSet :=
  if !wide && final == 0x42 then some .ascii
  else
    (c.sets.find? fun (letter, s) => letter.toNat == final && s.isWide == wide).map (·.2)

/-- Read an escape sequence after its first byte, where one is allowed to stand. -/
def escape? (c : Switching) (s : State) : List Nat → Option (Nat × State)
  | 0x24 :: 0x28 :: f :: _ => (c.set? true f).map fun x => (3, { s with first := x })
  | 0x24 :: 0x29 :: f :: _ => (c.set? true f).map fun x => (3, { s with second := x })
  | 0x24 :: f :: _ => (c.set? true f).map fun x => (2, { s with first := x })
  | 0x28 :: f :: _ => (c.set? false f).map fun x => (2, { s with first := x })
  | 0x29 :: f :: _ => (c.set? false f).map fun x => (2, { s with second := x })
  | 0x2E :: f :: _ =>
    if c.hasThird then (c.set? false f).map fun x => (2, { s with third := x }) else none
  | 0x26 :: 0x40 :: 0x1B :: 0x24 :: 0x42 :: _ =>
    if c.hasLong then some (5, { s with first := .jisX0208 }) else none
  | _ => none

/-- Whether a byte after the escape byte begins a designation. -/
def designates (b : Nat) : Bool := b ∈ [0x24, 0x26, 0x28, 0x29, 0x2E]

/-- Read a character of the set in use. -/
def char? (s : State) (b : Nat) (bytes : List Nat) : Option (Text × Nat × State) :=
  let set := if s.shifted then s.second else s.first
  if set.isWide then
    match bytes with
    | b' :: _ => (set.pair? b b').map fun t => (t, 1, s)
    | [] => none
  else (set.single? b).map fun x => ([x], 0, s)

/-- Reading an encoding. Other escape sequences are passed on as they are. -/
def step (c : Switching) : ByteStep State := fun s b bytes =>
  if s.unknown then some ([Char.ofNat b], 0, { s with unknown := !isFinal b })
  else if b = 0x1B then
    match bytes with
    | [] => none
    | b' :: r =>
      if designates b' then (c.escape? s bytes).map fun (n, s) => ([], n, s)
      else if c.hasThird ∧ b' = 0x4E then do
        return ([← s.third.upper? (← r.head?)], 2, s)
      else some (['\x1b'], 0, { s with unknown := true })
  else if c.shifts ∧ (b = 0x0E ∨ b = 0x0F) then some ([], 0, { s with shifted := b = 0x0E })
  else if b = 0x0A then some (['\n'], 0, { s with shifted := false })
  else if b < 0x20 then some ([Char.ofNat b], 0, s)
  else if 0x80 ≤ b then none
  else char? s b bytes

/-- The encodings. -/
def all : List Switching := [
    { name := "iso2022_jp"
      aliases := ["csiso2022jp", "iso2022jp", "iso_2022_jp"]
      sets := [('B', .jisX0208), ('J', .jisRoman), ('@', .jisX0208)] },
    { name := "iso2022_jp_1"
      aliases := ["iso2022jp_1", "iso_2022_jp_1"]
      sets := [('B', .jisX0208), ('D', .jisX0212), ('J', .jisRoman), ('@', .jisX0208)] },
    { name := "iso2022_jp_2"
      aliases := ["iso2022jp_2", "iso_2022_jp_2"]
      sets := [('B', .jisX0208), ('D', .jisX0212), ('C', .ksX1001), ('A', .gb2312),
        ('J', .jisRoman), ('@', .jisX0208), ('A', .latin), ('F', .greek)]
      hasThird := true },
    { name := "iso2022_jp_3"
      aliases := ["iso2022jp_3", "iso_2022_jp_3"]
      sets := [('B', .jisX0208), ('O', .jisX0213 false), ('P', .jisX0213Second)] },
    { name := "iso2022_jp_2004"
      aliases := ["iso_2022_jp_2004", "iso2022jp_2004"]
      sets := [('B', .jisX0208), ('Q', .jisX0213 true), ('P', .jisX0213Second)] },
    { name := "iso2022_jp_ext"
      aliases := ["iso2022jp_ext", "iso_2022_jp_ext"]
      sets := [('B', .jisX0208), ('D', .jisX0212), ('J', .jisRoman), ('I', .jisKana),
        ('@', .jisX0208)] },
    { name := "iso2022_kr"
      aliases := ["csiso2022kr", "iso2022kr", "iso_2022_kr"]
      sets := [('C', .ksX1001)]
      shifts := true
      hasLong := false }]

end Switching

/-! ## Marked stretches -/

/-- Stretches of GB 2312 stand between tildes with braces; the state tells whether one is open. -/
def tildeStep : ByteStep Bool := fun inside b bytes =>
  if b = 0x7E then
    match inside, bytes with
    | false, 0x7E :: _ => some (['~'], 1, false)
    | false, 0x7B :: _ => some ([], 1, true)
    | false, 0x0A :: _ => some ([], 1, false)
    | true, 0x7D :: _ => some ([], 1, false)
    | _, _ => none
  else if 0x80 ≤ b then none
  else if inside then
    match bytes with
    | b' :: _ => do return ([← Chinese.gb2312? (b + 0x80) (b' + 0x80)], 1, true)
    | [] => none
  else some ([Char.ofNat b], 0, false)

end Letterhead

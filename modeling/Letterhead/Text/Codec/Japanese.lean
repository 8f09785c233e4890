import Letterhead.Text.Codec.ByteStep
import Letterhead.Text.Codec.JisChart
import Letterhead.Text.Codec.JisExtension

/-
  Japanese encodings. The shifted ones put two rows of a chart under each first byte, and the
  extended ones give row and column a byte each.
-/

namespace Letterhead

/-- The Japanese encodings: of JIS X 0208 and what Windows or JIS X 0213 adds to it, in its first or
second edition. -/
inductive Japanese where
  | shifted
  | shiftedWindows
  | shifted2000
  | shifted2004
  | extended
  | extended2000
  | extended2004
  deriving DecidableEq, Repr

namespace Japanese

/-! ## Charts -/

/-- The character of the half-width syllables that a byte stands for. -/
def halfWidth? (b : Nat) : Option Char :=
  if 0xA1 ≤ b ∧ b ≤ 0xDF then some (Char.ofNat (0xFF61 + (b - 0xA1))) else none

/-- The cells of the first plane of JIS X 0213 that came with the second edition. -/
def newCells : List Nat := [1222, 1409, 4375, 4417, 7808, 8831, 8832, 8833, 8834, 8835]

/-- The characters of a cell of the first plane of JIS X 0213. -/
def firstPlane? (revised : Bool) (cell : Nat) : Option Text :=
  match Chart.jisX0208.at? cell with
  | some c => some [c]
  | none =>
    if !revised && newCells.contains cell then none
    else
      match Chart.jisX0213.at? cell with
      | some c => some [c]
      | none => (Chart.jisX0213Pairs.lookup cell).map String.toList

/-- The cell of the second plane of JIS X 0213 whose character the second edition changed. -/
def changedCell : Nat := 8674

/-- The characters of a cell of the second plane of JIS X 0213. -/
def secondPlane? (revised : Bool) (cell : Nat) : Option Text :=
  if !revised && cell == changedCell then some ['鬝']
  else (Chart.jisX0213Second.at? cell).map ([·])

/-- What follows the rows of the first plane in the shifted encodings: the rows of the second plane
that are in use. -/
def secondRows : List Nat := [0, 7, 2, 3, 4, 11, 12, 13, 14] ++ (List.range 17).map (77 + ·)

/-! ## Shifted encodings -/

/-- The number of cells under the rows of a chart. -/
def planeSize : Nat := 94 * 94

/-- The cell of two bytes; further rows follow those of the chart. -/
def shiftedCell? (a b : Nat) : Option Nat := do
  let column ← if 0x40 ≤ b ∧ b ≤ 0x7E then some (b - 0x40)
    else if 0x80 ≤ b ∧ b ≤ 0xFC then some (b - 0x41) else none
  if 0x81 ≤ a ∧ a ≤ 0x9F then some (188 * (a - 0x81) + column)
  else if 0xE0 ≤ a ∧ a ≤ 0xFC then some (188 * (a - 0xC1) + column) else none

def shiftedSingle? (b : Nat) : Option Char := (asciiChar? b).or (halfWidth? b)

/-- Bytes of Windows that stand for themselves or for characters of private use. -/
def windowsSingle? (b : Nat) : Option Char :=
  if b = 0x80 then some '\x80'
  else if b = 0xA0 then some (Char.ofNat 0xF8F0)
  else if 0xFD ≤ b then some (Char.ofNat (0xF8F1 + (b - 0xFD)))
  else shiftedSingle? b

/-- The first cell of the rows of private use on Windows, and the number of these cells. -/
def privateCells : Nat × Nat := (planeSize, 1880)

def windowsCell? (cell : Nat) : Option Char :=
  let (first, count) := privateCells
  if first ≤ cell ∧ cell < first + count then some (Char.ofNat (0xE000 + (cell - first)))
  else (Chart.windowsKanji.at? cell).or (Chart.jisX0208.at? cell)

/-- Bytes below 0x80 are those of the Japanese variant of ASCII. -/
def jisSingle? (b : Nat) : Option Char :=
  if b = 0x5C then some '¥' else if b = 0x7E then some '‾' else shiftedSingle? b

/-- The signs of ASCII that its Japanese variant lacks have cells of their own. -/
def jisCell? (revised : Bool) (cell : Nat) : Option Text :=
  if cell = 31 then some ['\\']
  else if cell = 111 then some ['~']
  else if cell < planeSize then firstPlane? revised cell
  else do
    let row ← secondRows[(cell - planeSize) / 94]?
    secondPlane? revised (94 * row + cell % 94)

/-! ## Extended encodings -/

/-- A byte 0x8E announces a half-width syllable, and 0x8F a cell of the second chart. -/
def extendedStep (first second : Nat → Option Text) : ByteStep Unit := fun _ b bytes =>
  if b < 0x80 then some ([Char.ofNat b], 0, ())
  else
    match b, bytes with
    | 0x8E, b' :: _ => (halfWidth? b').map fun c => ([c], 1, ())
    | 0x8F, a :: b' :: _ => do return (← second (← Chart.square? 0xA1 a b'), 2, ())
    | a, b' :: _ => do return (← first (← Chart.square? 0xA1 a b'), 1, ())
    | _, [] => none

/-- The second chart with the supplementary set in the cells that it leaves free. -/
def supplemented? (revised : Bool) (cell : Nat) : Option Text :=
  (secondPlane? revised cell).or ((Chart.jisX0212.at? cell).map ([·]))

/-! ## Decoding -/

/-- Reading an encoding. -/
def step : Japanese → ByteStep Unit
  | shifted => PairCode.step
    ⟨shiftedSingle?, fun a b => do return [← Chart.jisX0208.at? (← shiftedCell? a b)]⟩
  | shiftedWindows => PairCode.step
    ⟨windowsSingle?, fun a b => do return [← windowsCell? (← shiftedCell? a b)]⟩
  | shifted2000 => PairCode.step ⟨jisSingle?, fun a b => do jisCell? false (← shiftedCell? a b)⟩
  | shifted2004 => PairCode.step ⟨jisSingle?, fun a b => do jisCell? true (← shiftedCell? a b)⟩
  | extended =>
    extendedStep (fun cell => (Chart.jisX0208.at? cell).map ([·]))
      fun cell => (Chart.jisX0212.at? cell).map ([·])
  | extended2000 => extendedStep (firstPlane? false) (supplemented? false)
  | extended2004 => extendedStep (firstPlane? true) (supplemented? true)

end Japanese
end Letterhead

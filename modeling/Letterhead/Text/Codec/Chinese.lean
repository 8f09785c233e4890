import Letterhead.Text.Codec.Big5Chart
import Letterhead.Text.Codec.ByteStep
import Letterhead.Text.Codec.GbChart
import Letterhead.Text.Codec.HkscsChart

/-
  Chinese encodings. Those of the mainland extend GB 2312, first by the other unified ideographs and
  then by all of Unicode; those of Taiwan and Hong Kong extend Big5.
-/

namespace Letterhead

/-- The Chinese encodings. -/
inductive Chinese where
  | gb2312
  | gbk
  | gb18030
  | big5
  | big5Windows
  | hkscs
  deriving DecidableEq, Repr

namespace Chinese

/-! ## The mainland -/

/-- The character of a code of GB 2312. -/
def gb2312? (a b : Nat) : Option Char := do Chart.gb2312.at? (← Chart.square? 0xA1 a b)

/-- The cell of two bytes, in rows with 190 cells. -/
def wideCell? (a b : Nat) : Option Nat :=
  if a < 0x81 ∨ 0xFE < a then none
  else if 0x40 ≤ b ∧ b ≤ 0x7E then some (190 * (a - 0x81) + (b - 0x40))
  else if 0x80 ≤ b ∧ b ≤ 0xFE then some (190 * (a - 0x81) + (b - 0x41))
  else none

/-- The first of the unified ideographs, and their number. -/
def ideographs : Nat × Nat := (0x4E00, 20902)

/-- The unified ideographs of GB 2312, by their place among all. -/
def charted : List Nat :=
  let (first, count) := ideographs
  ((Chart.gb2312.flatMap fun (_, chars) => chars.toList.map Char.toNat).filterMap fun n =>
    if first ≤ n ∧ n < first + count then some (n - first) else none).mergeSort

/-- The other unified ideographs follow each other before the chart and left of it. -/
def otherIdeograph? (a b : Nat) : Option Char := do
  let cell ← wideCell? a b
  let n ← if a < 0xA1 then some cell
    else if 0xAA ≤ a ∧ b < 0xA1 then some (190 * 32 + 96 * (a - 0xAA) + cell % 190) else none
  let (first, count) := ideographs
  let place := Chart.freePlace charted n
  if place < count then some (Char.ofNat (first + place)) else none

/-- The character of a code of GBK; it sees some signs of GB 2312 otherwise. -/
def gbk? (a b : Nat) : Option Char := do
  let cell ← wideCell? a b
  (Chart.gbkSigns.at? cell).or ((gb2312? a b).or (otherIdeograph? a b))

/-- The cells of private use in GB 18030: the first of a run, its length and its first character. -/
def privateRuns : List (Nat × Nat × Nat) := [
    (6080, 96, 0xE4C6), (6270, 96, 0xE526), (6376, 6, 0xE766), (6433, 1, 0xE76D), (6444, 2, 0xE76E),
    (6458, 2, 0xE770), (6460, 96, 0xE586), (6650, 96, 0xE5E6), (6829, 11, 0xE772),
    (6840, 96, 0xE646), (7022, 8, 0xE77D), (7030, 96, 0xE6A6), (7150, 8, 0xE785), (7182, 7, 0xE78D),
    (7201, 2, 0xE794), (7208, 1, 0xE796), (7211, 9, 0xE797), (7220, 96, 0xE706), (7349, 15, 0xE7A0),
    (7397, 13, 0xE7AF), (7495, 11, 0xE7BC), (7533, 1, 0xE7C7), (7538, 4, 0xE7C9),
    (7579, 21, 0xE7CD), (7624, 1, 0xE7E2), (7627, 1, 0xE7E3), (7629, 3, 0xE7E4), (7686, 13, 0xE7F4),
    (7775, 15, 0xE801), (7886, 94, 0xE000), (8076, 94, 0xE05E), (8266, 94, 0xE0BC),
    (8456, 94, 0xE11A), (8646, 94, 0xE178), (8836, 94, 0xE1D6), (16525, 5, 0xE810),
    (22706, 94, 0xE234), (22896, 94, 0xE292), (23086, 94, 0xE2F0), (23276, 94, 0xE34E),
    (23466, 94, 0xE3AC), (23656, 94, 0xE40A), (23767, 3, 0xE816), (23775, 1, 0xE81E),
    (23783, 1, 0xE826), (23788, 2, 0xE82B), (23794, 2, 0xE831), (23804, 1, 0xE83B),
    (23812, 1, 0xE843), (23829, 2, 0xE854), (23845, 1, 0xE864), (23846, 94, 0xE468)]

/-- The character of private use of a cell. -/
def privateChar? (cell : Nat) : Option Char :=
  privateRuns.findSome? fun (first, count, code) =>
    if first ≤ cell ∧ cell < first + count then some (Char.ofNat (code + (cell - first))) else none

/-- The character of a code of GB 18030 with two bytes. -/
def gb18030? (a b : Nat) : Option Char := do
  let cell ← wideCell? a b
  (gbk? a b).or ((Chart.gb18030Signs.at? cell).or (privateChar? cell))

/-- The characters of the basic plane with codes of four bytes, in order: the first of a run and
its length. -/
def fourRuns : List (Nat × Nat) := [
    (0x80, 36), (0xA5, 2), (0xA9, 7), (0xB2, 5), (0xB8, 31), (0xD8, 8), (0xE2, 6), (0xEB, 1),
    (0xEE, 4), (0xF4, 3), (0xF8, 1), (0xFB, 1), (0xFD, 4), (0x102, 17), (0x114, 7), (0x11C, 15),
    (0x12C, 24), (0x145, 3), (0x149, 4), (0x14E, 29), (0x16C, 98), (0x1CF, 1), (0x1D1, 1),
    (0x1D3, 1), (0x1D5, 1), (0x1D7, 1), (0x1D9, 1), (0x1DB, 1), (0x1DD, 28), (0x1FA, 87),
    (0x252, 15), (0x262, 101), (0x2C8, 1), (0x2CC, 13), (0x2DA, 183), (0x3A2, 1), (0x3AA, 7),
    (0x3C2, 1), (0x3CA, 55), (0x402, 14), (0x450, 1), (0x452, 7102), (0x2011, 2), (0x2017, 1),
    (0x201A, 2), (0x201E, 7), (0x2027, 9), (0x2031, 1), (0x2034, 1), (0x2036, 5), (0x203C, 112),
    (0x20AD, 86), (0x2104, 1), (0x2106, 3), (0x210A, 12), (0x2117, 10), (0x2122, 62), (0x216C, 4),
    (0x217A, 22), (0x2194, 2), (0x219A, 110), (0x2209, 6), (0x2210, 1), (0x2212, 3), (0x2216, 4),
    (0x221B, 2), (0x2221, 2), (0x2224, 1), (0x2226, 1), (0x222C, 2), (0x222F, 5), (0x2238, 5),
    (0x223E, 10), (0x2249, 3), (0x224D, 5), (0x2253, 13), (0x2262, 2), (0x2268, 6), (0x2270, 37),
    (0x2296, 3), (0x229A, 11), (0x22A6, 25), (0x22C0, 82), (0x2313, 333), (0x246A, 10),
    (0x249C, 100), (0x254C, 4), (0x2574, 13), (0x2590, 3), (0x2596, 10), (0x25A2, 16), (0x25B4, 8),
    (0x25BE, 8), (0x25C8, 3), (0x25CC, 2), (0x25D0, 18), (0x25E6, 31), (0x2607, 2), (0x260A, 54),
    (0x2641, 1), (0x2643, 2110), (0x2E82, 2), (0x2E85, 3), (0x2E89, 2), (0x2E8D, 10), (0x2E98, 15),
    (0x2EA8, 2), (0x2EAB, 3), (0x2EAF, 4), (0x2EB4, 2), (0x2EB8, 3), (0x2EBC, 14), (0x2ECB, 293),
    (0x2FFC, 4), (0x3004, 1), (0x3018, 5), (0x301F, 2), (0x302A, 20), (0x303F, 2), (0x3094, 7),
    (0x309F, 2), (0x30F7, 5), (0x30FF, 6), (0x312A, 246), (0x322A, 7), (0x3232, 113),
    (0x32A4, 234), (0x3390, 12), (0x339F, 2), (0x33A2, 34), (0x33C5, 9), (0x33CF, 2), (0x33D3, 2),
    (0x33D6, 113), (0x3448, 43), (0x3474, 298), (0x359F, 111), (0x360F, 11), (0x361B, 765),
    (0x3919, 85), (0x396F, 96), (0x39D1, 14), (0x39E0, 147), (0x3A74, 218), (0x3B4F, 287),
    (0x3C6F, 113), (0x3CE1, 885), (0x4057, 264), (0x4160, 471), (0x4338, 116), (0x43AD, 4),
    (0x43B2, 43), (0x43DE, 248), (0x44D7, 373), (0x464D, 20), (0x4662, 193), (0x4724, 5),
    (0x472A, 82), (0x477D, 16), (0x478E, 441), (0x4948, 50), (0x497B, 2), (0x497E, 4), (0x4984, 1),
    (0x4987, 20), (0x499C, 3), (0x49A0, 22), (0x49B8, 703), (0x4C78, 39), (0x4CA4, 111),
    (0x4D1A, 148), (0x4DAF, 81), (0x9FA6, 14426), (0xE76C, 1), (0xE7C8, 1), (0xE7E7, 13),
    (0xE815, 1), (0xE819, 5), (0xE81F, 7), (0xE827, 4), (0xE82D, 4), (0xE833, 8), (0xE83C, 7),
    (0xE844, 16), (0xE856, 14), (0xE865, 4295), (0xF92D, 76), (0xF97A, 27), (0xF996, 81),
    (0xF9E8, 9), (0xF9F2, 26), (0xFA10, 1), (0xFA12, 1), (0xFA15, 3), (0xFA19, 6), (0xFA22, 1),
    (0xFA25, 2), (0xFA2A, 1030), (0xFE32, 1), (0xFE45, 4), (0xFE53, 1), (0xFE58, 1), (0xFE67, 1),
    (0xFE6C, 149), (0xFF5F, 129), (0xFFE6, 26)]

/-- The member of some runs at a place, counted through all of them. -/
def inRuns? : List (Nat × Nat) → Nat → Option Nat
  | [], _ => none
  | (first, count) :: rs, n => if n < count then some (first + n) else inRuns? rs (n - count)

/-- The character of a code with four bytes. -/
def four? (a b c d : Nat) : Option Char :=
  if 0x30 ≤ b ∧ b ≤ 0x39 ∧ 0x81 ≤ c ∧ c ≤ 0xFE ∧ 0x30 ≤ d ∧ d ≤ 0x39 ∧ 0x81 ≤ a ∧ a ≤ 0xFE then
    let n := (10 * (a - 0x81) + (b - 0x30)) * 1260 + 10 * (c - 0x81) + (d - 0x30)
    if a < 0x85 then (inRuns? fourRuns n).map Char.ofNat
    else if 189000 ≤ n ∧ n < 189000 + 0x100000 then some (Char.ofNat (0x10000 + (n - 189000)))
    else none
  else none

/-- Reading GB 18030: a digit after the first byte announces a code with four bytes. -/
def gb18030Step : ByteStep Unit := fun _ a bytes =>
  if a < 0x80 then some ([Char.ofNat a], 0, ())
  else
    match bytes with
    | b :: r =>
      if 0x30 ≤ b ∧ b ≤ 0x39 then
        match r with
        | c :: d :: _ => (four? a b c d).map fun x => ([x], 3, ())
        | _ => none
      else (gb18030? a b).map fun x => ([x], 1, ())
    | [] => none

/-! ## Taiwan and Hong Kong -/

/-- The cell of two bytes, in rows with 157 cells. -/
def narrowCell? (a b : Nat) : Option Nat :=
  if a < 0x81 ∨ 0xFE < a then none
  else if 0x40 ≤ b ∧ b ≤ 0x7E then some (157 * (a - 0x81) + (b - 0x40))
  else if 0xA1 ≤ b ∧ b ≤ 0xFE then some (157 * (a - 0x81) + (b - 0x62))
  else none

/-- The cells with two characters. -/
def hkscsPairs : List (Nat × String) :=
  [(1133, "\u00ca\u0304"), (1135, "\u00ca\u030c"), (1164, "\u00ea\u0304"), (1166, "\u00ea\u030c")]

/-- The cells that Hong Kong fills on its own: those from C6A1 to C8FE. -/
def ownCells : Nat × Nat := (10896, 11304)

/-- The characters of a cell in Hong Kong. -/
def hkscs? (cell : Nat) : Option Text :=
  match Chart.hkscs.at? cell, hkscsPairs.lookup cell with
  | some c, _ => some [c]
  | none, some pair => some pair.toList
  | none, none =>
    if ownCells.1 ≤ cell ∧ cell < ownCells.2 then none else (Chart.big5.at? cell).map ([·])

/-! ## Decoding -/

/-- Reading an encoding. -/
def step : Chinese → ByteStep Unit
  | gb2312 => PairCode.step ⟨asciiChar?, fun a b => (gb2312? a b).map ([·])⟩
  | gbk => PairCode.step ⟨asciiChar?, fun a b => (gbk? a b).map ([·])⟩
  | gb18030 => gb18030Step
  | big5 => PairCode.step
    ⟨asciiChar?, fun a b => do return [← Chart.big5.at? (← narrowCell? a b)]⟩
  | big5Windows => PairCode.step
    ⟨asciiChar?, fun a b => do
      let cell ← narrowCell? a b
      return [← (Chart.windowsBig5.at? cell).or (Chart.big5.at? cell)]⟩
  | hkscs => PairCode.step ⟨asciiChar?, fun a b => do hkscs? (← narrowCell? a b)⟩

end Chinese
end Letterhead

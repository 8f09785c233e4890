import Letterhead.Text.Basic
import Letterhead.Text.CharName.From0020
import Letterhead.Text.CharName.From1F00
import Letterhead.Text.CharName.From2D00
import Letterhead.Text.CharName.From10B00
import Letterhead.Text.CharName.From1DF00
import Letterhead.Text.CharName.Runs

/-
  Characters by name, as Unicode 14 names them. Most names are listed; those of Korean syllables are
  spelled from the names of their letters, and those of unified ideographs hold the number.
-/

namespace Letterhead.CharName

/-! ## Listed names -/

/-- The characters with listed names. -/
def listedCodes : List Nat :=
  runs.flatMap fun (first, count) => (List.range count).map (first + ·)

/-- The listed names, written one after the other. -/
def listedNames : Text :=
  ([names0020, names1F00, names2D00, names10B00, names1DF00].flatMap String.toList).filter (· ≠ '\n')

/-- Find a name among the names of some characters; `before` is the name in front of them. -/
def findListed? (name : Text) : List Nat → Text → Text → Option Nat
  | [], _, _ => none
  | code :: codes, before, s =>
    let shared := (s.takeWhile Char.isLower).foldl (fun n c => n + (c.toNat - 'a'.toNat)) 0
    let r := s.dropWhile Char.isLower
    let here := before.take shared ++ r.takeWhile fun c => !c.isLower
    if here = name then some code
    else findListed? name codes here (r.dropWhile fun c => !c.isLower)

/-- The abbreviated name of a variation selector: `VS` and its number. -/
def variationSelector? (name : Text) : Option Nat := do
  let digits ← Text.after? "VS".toList name
  let n ← digits.foldlM (fun n c => if c.isDigit then some (n * 10 + (c.toNat - 48)) else none) 0
  if Nat.toDigits 10 n ≠ digits then none
  else if 1 ≤ n ∧ n ≤ 16 then some (0xFE00 + (n - 1))
  else if 17 ≤ n ∧ n ≤ 256 then some (0xE0100 + (n - 17))
  else none

/-! ## Korean syllables -/

/-- The names of the letters that a syllable begins with, has in its middle and ends with. -/
def leads : List String :=
  ["G", "GG", "N", "D", "DD", "R", "M", "B", "BB", "S", "SS", "", "J", "JJ", "C", "K", "T", "P", "H"]

def vowels : List String :=
  ["A", "AE", "YA", "YAE", "EO", "E", "YEO", "YE", "O", "WA", "WAE", "OE", "YO", "U", "WEO", "WE",
    "WI", "YU", "EU", "YI", "I"]

def tails : List String :=
  ["", "G", "GG", "GS", "N", "NJ", "NH", "D", "L", "LG", "LM", "LB", "LS", "LT", "LP", "LH", "M",
    "B", "BS", "S", "SS", "NG", "J", "C", "K", "T", "P", "H"]

/-- The longest of some names that a text begins with: its place and what follows it. -/
def longest? (names : List String) (s : Text) : Option (Nat × Text) :=
  let fitting := names.zipIdx.filter fun (n, _) => n.toList.isPrefixOf s
  (firstLargest? (fun (n, _) => n.length) fitting).map fun (n, i) => (i, s.drop n.length)

/-- The syllable that is spelled by the names of its letters. -/
def syllable? (spelling : Text) : Option Nat := do
  let (lead, s) ← longest? leads spelling
  let (vowel, s) ← longest? vowels s
  let (tail, s) ← longest? tails s
  if s = [] then some (0xAC00 + (lead * vowels.length + vowel) * tails.length + tail) else none

/-! ## Unified ideographs -/

/-- The runs of unified ideographs: first and last one. -/
def ideographs : List (Nat × Nat) :=
  [(0x3400, 0x4DBF), (0x4E00, 0x9FFF), (0x20000, 0x2A6DF), (0x2A700, 0x2B738), (0x2B740, 0x2B81D),
    (0x2B820, 0x2CEA1), (0x2CEB0, 0x2EBE0), (0x30000, 0x3134A)]

/-- The ideograph with a number of four or five digits. -/
def ideograph? (digits : Text) : Option Nat := do
  if digits.length ≠ 4 ∧ digits.length ≠ 5 then none
  let n ← digits.foldlM (fun n c => return n * 16 + (← "0123456789ABCDEF".toList.idxOf? c)) 0
  if ideographs.any fun (first, last) => first ≤ n && n ≤ last then some n else none

/-! ## All names -/

/-- The character with a name. Only the beginnings of the names that are not listed depend on
case. -/
def find? (name : Text) : Option Nat :=
  match Text.after? "HANGUL SYLLABLE ".toList name,
      Text.after? "CJK UNIFIED IDEOGRAPH-".toList name with
  | some spelling, _ => syllable? spelling
  | none, some digits => ideograph? digits
  | none, none =>
    let name := name.map Char.toUpper
    (variationSelector? name).or ((aliases.lookup (String.ofList name)).or
      (findListed? name listedCodes [] listedNames))

end Letterhead.CharName

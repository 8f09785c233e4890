import Letterhead.Text.CaseTable

/-
  Lower case. `Text.lower` maps a whole text, where a capital sigma becomes the final sigma at the
  end of a word; `lowerCode` maps a single code point and `caseVariants` lists what is the same
  letter when case is ignored.
-/

namespace Letterhead

/-- The single lower case letter of a code point. -/
def lowerCode (n : Nat) : Nat :=
  if n < 0x80 then if 0x41 ≤ n ∧ n ≤ 0x5A then n + 32 else n
  else
    match lowerCaseRuns.find? fun (first, last, step, _) =>
        first ≤ n && n ≤ last && (n - first) % step == 0 with
    | some (_, _, _, shift) => Int.toNat (n + shift)
    | none => n

/-- The single lower case character of a character. -/
def lowerChar (c : Char) : Char := Char.ofNat (lowerCode c.toNat)

/-- Whether the last character that is not passed over has a case; the text is given backwards. -/
def endsCased : Text → Bool
  | [] => false
  | c :: s =>
    if caseIgnorableCodes.contains c.toNat then endsCased s else casedCodes.contains c.toNat

/-- The lower case of one character in its place: after the text `before`, which is given
backwards, and before the text `following`. -/
def lowerAt (before : Text) (c : Char) (following : Text) : Text :=
  if c == 'Σ' then if endsCased before && !endsCased following then ['ς'] else ['σ']
  else if c == 'İ' then ['i', '\u0307']
  else [lowerChar c]

namespace Text

/-- Lower case of a text that stands after `before`, which is given backwards. -/
def lowerFrom (before : Text) : Text → Text
  | [] => []
  | c :: s => lowerAt before c s ++ lowerFrom (c :: before) s

/-- The text in lower case. -/
def lower (s : Text) : Text := lowerFrom [] s

end Text

/-- The lower case letters that are the same letter as a lower case one when case is ignored. -/
def sameLetters (n : Nat) : List Nat := (sharedUpperCase.find? (·.contains n)).getD [n]

/-- The code points with the lower case letter `n`, apart from it. -/
def upperCodes (n : Nat) : List Nat :=
  lowerCaseRuns.toList.filterMap fun (first, last, step, shift) =>
    let m := Int.toNat (n - shift)
    if first ≤ m && m ≤ last && (m - first) % step == 0 then some m else none

/-- The code points that are the same letter as a lower case one when case is ignored. -/
def caseVariants (n : Nat) : List Nat :=
  if n < 0x61 || 0x7A < n && n < 0xAA then [n]
  else (sameLetters n).flatMap fun l => l :: upperCodes l

/-- Whether a range of code points has a letter of the alphabet. -/
def hasAsciiLetter (first last : Nat) : Bool :=
  first ≤ 0x7A && 0x41 ≤ last && !(0x5A < first && last < 0x61)

/-- Whether a run of `lowerCaseRuns`, or its lower case letters, has a member in a range. Up to the
ordinal indicators these are the letters of the alphabet. -/
def hasCased (first last : Nat) : Bool :=
  if last < 0xAA then hasAsciiLetter first last
  else
    sharedUpperCase.any (fun ls => ls.any fun l => first ≤ l && l ≤ last) ||
      lowerCaseRuns.any fun (a, b, step, shift) =>
        let meets := fun (a b : Nat) =>
          let low := if first ≤ a then a else a + (first - a + step - 1) / step * step
          low ≤ b && low ≤ last
        meets a b || meets (Int.toNat (a + shift)) (Int.toNat (b + shift))

end Letterhead

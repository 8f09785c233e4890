import Letterhead.Text.Basic

/-
  Blank characters: the white space of Unicode together with the four information separators
  U+001C to U+001F, and the trimming and word splitting that rest on them.
-/

namespace Letterhead

/-- The 29 characters that count as white space. -/
def isBlank (c : Char) : Bool :=
  let n := c.toNat
  (9 ≤ n && n ≤ 13) || (28 ≤ n && n ≤ 32) || n == 0x85 || n == 0xA0 || n == 0x1680 ||
    (0x2000 ≤ n && n ≤ 0x200A) || n == 0x2028 || n == 0x2029 || n == 0x202F || n == 0x205F ||
    n == 0x3000

namespace Text

/-- Drop the blank characters at the start. -/
def trimStart (s : Text) : Text := s.dropWhile isBlank

/-- Drop the blank characters at the end. -/
def trimEnd : Text → Text
  | [] => []
  | c :: s =>
    match trimEnd s with
    | [] => if isBlank c then [] else [c]
    | t => c :: t

/-- Drop the blank characters at both ends. -/
def trim (s : Text) : Text := trimEnd (trimStart s)

/-- Whether every character is blank. -/
def allBlank (s : Text) : Bool := s.all isBlank

/-- The maximal stretches without a blank character; the first component is the stretch that the
text begins with. -/
def wordsFrom : Text → Text × List Text
  | [] => ([], [])
  | c :: s =>
    let (w, ws) := wordsFrom s
    if isBlank c then ([], if w = [] then ws else w :: ws) else (c :: w, ws)

/-- The words of a text: its maximal stretches without a blank character. -/
def words (s : Text) : List Text :=
  let (w, ws) := wordsFrom s
  if w = [] then ws else w :: ws

end Text
end Letterhead

import Letterhead.Text.Basic

/-
  Rows: a text cut behind every character that Unicode takes for the end of a line. There are more
  of them than line breaks; CR followed by LF still is one end.
-/

namespace Letterhead.Text

/-- Whether a character ends a row. -/
def endsRow (c : Char) : Bool :=
  let n := c.toNat
  (10 ≤ n && n ≤ 13) || (28 ≤ n && n ≤ 30) || n == 0x85 || n == 0x2028 || n == 0x2029

/-- The row that a text begins with, and the rows after it. -/
def rowsFrom : Text → Text × List Text
  | [] => ([], [])
  | '\r' :: '\n' :: s =>
    let (r, rs) := rowsFrom s
    (['\r', '\n'], if r = [] then rs else r :: rs)
  | c :: s =>
    let (r, rs) := rowsFrom s
    if endsRow c then ([c], if r = [] then rs else r :: rs) else (c :: r, rs)

/-- The rows of a text with their ends. -/
def rows (s : Text) : List Text :=
  let (r, rs) := rowsFrom s
  if r = [] then rs else r :: rs

end Letterhead.Text

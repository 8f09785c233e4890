import Letterhead.Text.Basic

/-
  Charts: large character sets, where a character is found by the number of its cell. The cells are
  numbered row after row.
-/

namespace Letterhead

/-- A chart as runs of characters, each with the number of its first cell. Line ends do not
count. -/
abbrev Chart := List (Nat × String)

namespace Chart

/-- The character of a cell. -/
def at? (c : Chart) (cell : Nat) : Option Char :=
  c.findSome? fun (first, chars) =>
    if cell < first then none else (chars.toList.filter (· != '\n'))[cell - first]?

/-- The cell at a row and column of a chart of 94 rows and columns, where the numbers of both begin
with `first`. -/
def square? (first row column : Nat) : Option Nat :=
  if first ≤ row ∧ row < first + 94 ∧ first ≤ column ∧ column < first + 94 then
    some ((row - first) * 94 + (column - first))
  else none

/-- The number of the free place `n`, where the taken ones are given in order. -/
def freePlace (taken : List Nat) (n : Nat) : Nat :=
  taken.foldl (fun place t => if t ≤ place then place + 1 else place) n

end Chart
end Letterhead

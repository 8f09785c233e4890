import Letterhead.Text.Basic

/-
  Line breaks: CRLF, LF and CR. A text is read as a list of pieces, each a single line break or
  a single other character; counting and rewriting line breaks are list functions on the pieces.
-/

namespace Letterhead

/-- The three line breaks, in the order that settles ties between equally frequent ones. -/
inductive LineBreak where
  | crlf
  | lf
  | cr
  deriving DecidableEq, Repr

namespace LineBreak

/-- The characters of a line break. -/
def text : LineBreak → Text
  | crlf => ['\r', '\n']
  | lf => ['\n']
  | cr => ['\r']

/-- The line break that a text begins with, and what follows it. -/
def take? : Text → Option (LineBreak × Text)
  | '\r' :: '\n' :: s => some (crlf, s)
  | '\r' :: s => some (cr, s)
  | '\n' :: s => some (lf, s)
  | _ => none

theorem text_ne (b : LineBreak) : b.text ≠ [] := by cases b <;> simp [text]

theorem eq_of_take? {s r : Text} {b : LineBreak} (h : take? s = some (b, r)) :
    s = b.text ++ r := by
  unfold take? at h
  split at h <;> simp_all [text]
  all_goals (obtain ⟨rfl, rfl⟩ := h; rfl)

end LineBreak

/-- Whether a character is part of a line break. -/
def isBreakChar (c : Char) : Bool := c == '\n' || c == '\r'

namespace Text

/-- A line break, or one character that belongs to none. -/
inductive Piece where
  | char (c : Char)
  | lineBreak (b : LineBreak)
  deriving DecidableEq, Repr

/-- The characters of a piece. -/
def Piece.text : Piece → Text
  | char c => [c]
  | lineBreak b => b.text

/-- Read a text as pieces; CR followed by LF is one line break. -/
def pieces : Text → List Piece
  | '\r' :: '\n' :: s => .lineBreak .crlf :: pieces s
  | '\r' :: s => .lineBreak .cr :: pieces s
  | '\n' :: s => .lineBreak .lf :: pieces s
  | c :: s => .char c :: pieces s
  | [] => []

/-- Write `mark` for every line break. -/
def setLineBreaks (mark : Text) (s : Text) : Text :=
  (pieces s).flatMap fun
    | .char c => [c]
    | .lineBreak _ => mark

/-- The number of line breaks of one kind. -/
def countBreaks (b : LineBreak) (s : Text) : Nat := (pieces s).count (.lineBreak b)

/-- The most frequent line break: of equally frequent ones the earliest of CRLF, LF and CR, and
LF for a text without line breaks. -/
def dominantBreak (s : Text) : LineBreak :=
  let crlf := countBreaks .crlf s
  let lf := countBreaks .lf s
  let cr := countBreaks .cr s
  if crlf = 0 ∧ cr = 0 then .lf
  else if lf ≤ crlf ∧ cr ≤ crlf then .crlf
  else if cr ≤ lf then .lf
  else .cr

/-- The lines of a text; a final line break does not start another line. -/
def lines (s : Text) : List Text :=
  let rec go : List Piece → Text × List Text
    | [] => ([], [])
    | .char c :: ps =>
      let (l, ls) := go ps
      (c :: l, ls)
    | .lineBreak _ :: ps =>
      let (l, ls) := go ps
      ([], l :: ls)
  let (l, ls) := go (pieces s)
  let all := l :: ls
  if all.getLast? = some [] then all.dropLast else all

/-- A text cut just past its first line break. -/
def cutLine : Text → Text × Text
  | '\r' :: '\n' :: s => (['\r', '\n'], s)
  | '\r' :: s => (['\r'], s)
  | '\n' :: s => (['\n'], s)
  | c :: s =>
    let (l, r) := cutLine s
    (c :: l, r)
  | [] => ([], [])

theorem cutLine_append (s : Text) : (cutLine s).1 ++ (cutLine s).2 = s := by
  fun_induction cutLine s <;> simp_all

/-- Whether the last character is part of a line break. -/
def endsLine (s : Text) : Bool := s.getLast?.any isBreakChar

end Text
end Letterhead

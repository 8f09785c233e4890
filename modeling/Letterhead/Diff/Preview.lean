import Letterhead.Ansi.Style
import Letterhead.Diff.Unified
import Letterhead.Data.Time

/-
  Patches as a preview shows them: one line of output for each line of the patch, in a style that
  tells what the line says, with its line breaks written out.
-/

namespace Letterhead.Diff

open Ansi

/-- The style of a line of a patch, by what it begins with. -/
def lineStyle (line : Text) : Style :=
  if Text.beginsWith "---".toList line || Text.beginsWith "+++".toList line then
    Style.bold ++ Style.white
  else
    match line with
    | '-' :: _ => Style.bold ++ Style.red
    | '+' :: _ => Style.bold ++ Style.green
    | '@' :: _ => Style.cyan
    | _ => Style.gray

/-- Line breaks as the letters that name them. -/
def visibleBreaks (s : Text) : Text :=
  s.flatMap fun c => if c = '\r' then ['\\', 'r'] else if c = '\n' then ['\\', 'n'] else [c]

/-- A line of a patch in its style. -/
def previewLine (line : Text) (painter : Painter := paint) : Text :=
  painter (lineStyle line) (visibleBreaks line)

/-- The preview of a patch, with the numbers of its lines if they are wanted. -/
def preview (patch : List Text) (numbered : Bool) (painter : Painter := paint) : Text :=
  (patch.zipIdx 1).flatMap fun (line, n) =>
    (if numbered then paddedDecimal 4 n ++ ['|'] else []) ++ previewLine line painter ++ ['\n']

end Letterhead.Diff

import Letterhead.Batch.Basic
import Letterhead.Log.Threshold

/-
  The screen that a command writes to: results on one stream, warnings and notices on another.
  Without colour all styles are left out, except in notices.
-/

namespace Letterhead.Command

/-- How much is shown, and how. -/
structure Screen where
  verbosity : Int
  colored : Bool
  threshold : Int

/-- What has been written to the two streams. -/
structure Output where
  out : Text := []
  err : Text := []
  deriving DecidableEq, Repr

namespace Screen

/-- A text as it is shown. -/
def shown (s : Screen) (text : Text) : Text := if s.colored then text else Ansi.plain text

/-- A line of a result. -/
def line (s : Screen) (text : Text) : Text := s.shown text ++ ['\n']

/-- A text in bold, where there is colour. -/
def bold (s : Screen) (text : Text) : Text := if s.colored then Ansi.marked [1] text else text

/-- A text in bold and underlined, where there is colour. -/
def heading (s : Screen) (text : Text) : Text :=
  if s.colored then Ansi.marked [1, 4] text else text

/-- A warning. -/
def warning (s : Screen) (text : String) : Text := s.line (Ansi.marked [33] text.toList)

/-- A remark as it is shown. -/
def remark (s : Screen) : Remark → Text
  | .notice n => Log.lines s.threshold [n]
  | .warning text => s.warning text

end Screen
end Letterhead.Command

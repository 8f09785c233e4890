import Letterhead.Ansi.Style
import Letterhead.Log.Basic
import Letterhead.Number.Whole
import Letterhead.Text.Quoted

/-
  Which notices are shown, and how. The threshold is named or given as a number; a notice is shown
  as one line in the style of its level.
-/

namespace Letterhead

/-- The characters that are digits but have no place in decimal numbers, such as superscripts. -/
def otherDigits : CodeSet := ⟨#[
  0xB2, 0xB4, 0xB9, 0xBA, 0x1369, 0x1372, 0x19DA, 0x19DB, 0x2070, 0x2071, 0x2074, 0x207A, 0x2080,
  0x208A, 0x2460, 0x2469, 0x2474, 0x247D, 0x2488, 0x2491, 0x24EA, 0x24EB, 0x24F5, 0x24FE, 0x24FF,
  0x2500, 0x2776, 0x277F, 0x2780, 0x2789, 0x278A, 0x2793, 0x10A40, 0x10A44, 0x10E60, 0x10E69,
  0x11052, 0x1105B, 0x1F100, 0x1F10B]⟩

/-- Why a text of digits is no level: it is no decimal number, or begins with too many digits of
one. -/
inductive BadLevel where
  | notDecimal (text : Text)
  | tooLong (digits : Nat)
  deriving DecidableEq, Repr

def BadLevel.message : BadLevel → String
  | notDecimal text => "invalid literal for int() with base 10: " ++ text.quotedString
  | tooLong digits => Whole.tooLongMessage digits

namespace Level

/-- The capital letter of a letter of the alphabet; the dotless i and the long s have one, too. -/
def capital (c : Char) : Char :=
  if c = 'ı' then 'I' else if c = 'ſ' then 'S' else c.toUpper

/-- The level of a name in capital letters. -/
def named? (name : String) : Option Int :=
  [("TRACE", trace), ("DEBUG", debug), ("INFO", info), ("WARNING", warning), ("WARN", warning),
    ("ERROR", error), ("CRITICAL", critical), ("FATAL", critical), ("NOTSET", 0)].lookup name

/-- The threshold that a text names. A text that names none is as good as no text. -/
def ofText (s : Text) : Except BadLevel (Option Int) :=
  let word := (Text.trim s).map capital
  if word ≠ [] ∧ word.all fun c => isDigitChar c || otherDigits.contains c.toNat then
    let leading := word.takeWhile fun c => (digitValue? c).isSome
    if Whole.maxDecimals < leading.length then .error (.tooLong leading.length)
    else
      match word.mapM digitValue? with
      | some digits => .ok (some (digits.foldl (fun n d => 10 * n + d) 0 : Nat))
      | none => .error (.notDecimal word)
  else .ok (named? (String.ofList word))

/-- The style of a level. -/
def style (level : Int) : Ansi.Style :=
  if critical ≤ level then .brightRed
  else if error ≤ level then .red
  else if warning ≤ level then .yellow
  else if info ≤ level then .green
  else if debug ≤ level then .gray
  else if trace ≤ level then .blue
  else Ansi.Style.dim ++ Ansi.Style.red

end Level

namespace Log

/-- A message of a level as it is shown. -/
def line (level : Int) (message : Text) : Text :=
  Ansi.paint (Level.style level) ("[".toList ++ (Level.name level).toList ++ "] ".toList ++ message)

/-- The threshold when none is given. -/
def defaultThreshold : Int := Level.critical

/-- The notices at or above a threshold, one to a line. -/
def lines (threshold : Int) (ns : List Notice) : Text :=
  (ns.filter fun n => threshold ≤ n.level).flatMap fun n => line n.level n.text.toList ++ ['\n']

end Log
end Letterhead

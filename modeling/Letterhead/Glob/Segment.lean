import Letterhead.Pattern.Match
import Letterhead.Pattern.Parser

/-
  Globs for one name of a path: `*` covers any characters but slashes, `?` covers one, brackets
  list characters, and a backslash takes the next character as it is. Within brackets the rules of
  patterns hold, except that a backslash stands for itself and `!` negates like `^`.
-/

namespace Letterhead.Glob

/-- The test for one character. -/
def char (c : Char) : Step := .one (.ofCode false .exact c.toNat)

/-- Every character but the slash. -/
def inName : CharSet := .allBut '/'

/-- Any number of characters of a set. -/
def anyOf (set : CharSet) : Step := .repeated 0 none .greedy [.one set]

/-- The length of the bracket expression that a text begins with, up to and with the bracket that
closes it; a bracket that comes first does not. The opening bracket is not part of the text. -/
def bracketLength? (s : Text) : Option Nat :=
  let negation := if s.head? = some '!' || s.head? = some '^' then 1 else 0
  let first := if (s.drop negation).head? = some ']' then 1 else 0
  ((s.drop (negation + first)).idxOf? ']').map (negation + first + · + 1)

/-- The pattern of a bracket expression, which is given without its opening bracket. -/
def bracket? (s : Text) : Option Pattern :=
  let body := match s with
    | '!' :: r => '^' :: r
    | r => r
  let doubled := body.flatMap fun c => if c = '\\' then ['\\', '\\'] else [c]
  (Pattern.ofText ("(?-i:[".toList ++ doubled ++ [')'])).toOption

/-- Why a text is no glob for a name: it ends with a backslash, or in a bracket expression. -/
inductive SegmentFault where
  | openEscape
  | openBracket
  deriving DecidableEq, Repr

/-- What is wrong with a glob; the number counts the leading characters that are already covered. -/
def faultFrom? : Nat → Text → Option SegmentFault
  | _, [] => none
  | skip + 1, _ :: s => faultFrom? skip s
  | 0, '\\' :: s => if s = [] then some .openEscape else faultFrom? 1 s
  | 0, '[' :: s =>
    match bracketLength? s with
    | some n => faultFrom? n s
    | none => some .openBracket
  | 0, _ :: s => faultFrom? 0 s

/-- What is wrong with a glob for a name, if anything. -/
def segmentFault? (s : Text) : Option SegmentFault := faultFrom? 0 s

/-- The pattern of a glob; the number counts the leading characters that are already covered. -/
def segmentFrom : Nat → Text → Option Pattern
  | _, [] => some []
  | skip + 1, _ :: s => segmentFrom skip s
  | 0, '\\' :: s => do return char (← s.head?) :: (← segmentFrom 1 s)
  | 0, '*' :: s => (segmentFrom 0 s).map (anyOf inName :: ·)
  | 0, '?' :: s => (segmentFrom 0 s).map (.one inName :: ·)
  | 0, '[' :: s =>
    match bracketLength? s with
    | some n => do return (← bracket? (s.take n)) ++ (← segmentFrom n s)
    | none => none
  | 0, c :: s => (segmentFrom 0 s).map (char c :: ·)

/-- The pattern of a glob for a name without faults, if its bracket expressions are patterns. -/
def segment? (s : Text) : Option Pattern := segmentFrom 0 s

end Letterhead.Glob

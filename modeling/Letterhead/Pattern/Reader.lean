import Letterhead.Number.Whole
import Letterhead.Pattern.Basic
import Letterhead.Text.Identifier

/-
  Reading the written form of a pattern sign by sign. A sign is a character or an escaped
  character; a backslash at the end is refused as soon as it comes next. The state of a reader is
  what has been read so far.
-/

namespace Letterhead.Pattern

/-! ## Errors -/

/-- Why a text is no pattern: it is not well formed, a number in it is too large or has too many
digits, or it asks for two kinds of letters at once. -/
inductive Error where
  | malformed
  | countTooLarge
  | countTooLong (digits : Nat)
  | codeTooLarge
  | flagClash
  deriving DecidableEq, Repr

namespace Error

def message : Error → String
  | malformed => "not a well-formed expression"
  | countTooLarge => "the repetition number is too large"
  | countTooLong digits => Whole.tooLongMessage digits
  | codeTooLarge => "Python int too large to convert to C int"
  | flagClash => "ASCII and UNICODE flags are incompatible"

/-- Whether a number is too large to be kept. -/
def isTooLarge (e : Error) : Bool := e = countTooLarge || e = codeTooLarge

/-- Whether an error is about the reach of numbers and flags and not about the form. -/
def isFault (e : Error) : Bool := e != malformed

end Error

/-! ## Signs -/

/-- The unit of the written form: a character, a character after a backslash, or a backslash that
nothing follows. -/
inductive Sign where
  | plain (c : Char)
  | escaped (c : Char)
  | broken
  deriving DecidableEq, Repr

def Sign.text : Sign → Text
  | plain c => [c]
  | escaped c => ['\\', c]
  | broken => ['\\']

/-- A text as signs. -/
def signs : Text → List Sign
  | [] => []
  | ['\\'] => [.broken]
  | '\\' :: c :: s => .escaped c :: signs s
  | c :: s => .plain c :: signs s

/-! ## State -/

/-- The flags in force. -/
structure Flags where
  ignoreCase : Bool := true
  multiLine : Bool := false
  dotAll : Bool := false
  spaced : Bool := false
  ascii : Bool := false
  deriving DecidableEq, Repr

def Flags.rule (f : Flags) : CaseRule :=
  if !f.ignoreCase then .exact else if f.ascii then .asciiFold else .fold

/-- The wishes for the whole pattern: letters of ASCII, letters of all scripts, no repetitions. -/
structure Wishes where
  ascii : Bool := false
  unicode : Bool := false
  single : Bool := false
  deriving DecidableEq, Repr

/-- What has been read so far: the remaining signs, the flags of the current group, the wishes for
the whole pattern, the widths of the groups from the first on (`none` while a group is open), their
names, the number of groups before the current look-behind, and the groups that conditionals test.
`doomed` tells that the pattern will be refused once it has been read. -/
structure State where
  rest : List Sign
  flags : Flags := {}
  wishes : Wishes := {}
  widths : List (Option Width) := []
  names : List (Text × Nat) := []
  behindFrom : Option Nat := none
  tested : List Nat := []
  doomed : Bool := false

abbrev Reader := StateT State (Except Error)

def refuse {α : Type} : Reader α := throw .malformed

/-- Refuse the pattern once it has been read. -/
def doom : Reader Unit := modify fun s => { s with doomed := true }

/-! ## Going on -/

/-- Go on with the signs that remain. -/
def goOn (rest : List Sign) : Reader Unit := do
  if rest.head? = some .broken then refuse
  modify fun s => { s with rest := rest }

def peek : Reader (Option Sign) := return (← get).rest.head?

def skip : Reader Unit := do goOn (← get).rest.tail

/-- The next sign; a pattern that ends here is refused. -/
def next : Reader Sign := do
  match ← peek with
  | some t => skip; return t
  | none => refuse

/-- Pass over a plain character if it comes next. -/
def accept (c : Char) : Reader Bool := do
  if (← peek) = some (.plain c) then skip; return true else return false

def expect (c : Char) : Reader Unit := do
  unless ← accept c do refuse

/-- The longest run of at most `n` plain characters of a class, and what follows it. -/
def runUpTo (test : Char → Bool) : Nat → List Sign → Text × List Sign
  | n + 1, .plain c :: r =>
    if test c then
      let (t, rest) := runUpTo test n r
      (c :: t, rest)
    else ([], .plain c :: r)
  | _, r => ([], r)

/-- Read the longest run of at most `n` plain characters of a class. -/
def charsUpTo (n : Nat) (test : Char → Bool) : Reader Text := do
  let (t, rest) := runUpTo test n (← get).rest
  goOn rest
  return t

/-- The text before a closing character, and what follows that. -/
def cutAtSign? (close : Char) : List Sign → Option (Text × List Sign)
  | [] => none
  | t :: r =>
    if t = .plain close then some ([], r)
    else (cutAtSign? close r).map fun (x, rest) => (t.text ++ x, rest)

/-- Read the text before a closing character, which is passed over; it has to be non-empty. -/
def textUntil (close : Char) : Reader Text := do
  match cutAtSign? close (← get).rest with
  | some (t, rest) => if t = [] then refuse else goOn rest; return t
  | none => refuse

/-! ## Numbers -/

def isOctal (c : Char) : Bool := '0' ≤ c && c ≤ '7'

def isHex (c : Char) : Bool := c.isDigit || ('a' ≤ c && c ≤ 'f') || ('A' ≤ c && c ≤ 'F')

/-- The number that digits of a base give. -/
def numberOf (base : Nat) (digits : Text) : Nat :=
  digits.foldl (fun n c => n * base + (Whole.digit? c).getD 0) 0

/-- The greatest number of a 32-bit word that has a sign. -/
def maxSigned : Nat := 2147483647

/-- The number of code points. -/
def codeCount : Nat := 0x110000

/-- A code point with exactly `n` hexadecimal digits. -/
def hexCode (n : Nat) : Reader Nat := do
  let digits ← charsUpTo n isHex
  if digits.length ≠ n then refuse
  let code := numberOf 16 digits
  if maxSigned < code then throw .codeTooLarge
  if codeCount ≤ code then refuse
  return code

/-- The end of the numbers of repetitions. -/
def countEnd : Nat := 4294967295

/-- A number of repetitions, from its digits. -/
def countOf (digits : Text) : Reader Nat := do
  if Whole.maxDecimals < digits.length then throw (.countTooLong digits.length)
  let n := numberOf 10 digits
  if countEnd ≤ n then throw .countTooLarge
  return n

/-! ## Groups -/

/-- The width of a group that is closed. -/
def closedWidth? (n : Nat) : Reader (Option Width) := do
  let widths := (← get).widths
  return if n = 0 then none else (widths[n - 1]?).join

/-- Inside a look-behind only groups closed before it can be referred to. -/
def checkBehind (n : Nat) : Reader Unit := do
  match (← get).behindFrom with
  | none => return
  | some count =>
    if (← closedWidth? n).isNone ∨ count < n then refuse

/-- A reference to a group. -/
def referTo (n : Nat) : Reader Step := do
  if (← closedWidth? n).isNone then refuse
  checkBehind n
  return .backref n (← get).flags.rule

/-- Open a group; a name can be given once. -/
def openGroup (name : Option Text) : Reader Nat := do
  let s ← get
  let n := s.widths.length + 1
  match name with
  | none => set { s with widths := s.widths ++ [none] }
  | some name =>
    if (s.names.lookup name).isSome then refuse
    set { s with widths := s.widths ++ [none], names := (name, n) :: s.names }
  return n

def widthOf (p : Pattern) : Reader Width := do
  let widths := (← get).widths
  return width (fun n => ((widths[n - 1]?).join).getD .zero) p

def closeGroup (n : Nat) (p : Pattern) : Reader Unit := do
  let w ← widthOf p
  modify fun s => { s with widths := s.widths.set (n - 1) (some w) }

/-- The end of the numbers that a conditional can test. -/
def groupEnd : Nat := 1073741823

/-- The number of the group that a conditional tests: its name is known, or its number is noted. -/
def testedGroup (name : Text) : Reader Nat := do
  if Text.isIdentifier name then
    match (← get).names.lookup name with
    | some n => return n
    | none => refuse
  else
    match Whole.ofText? 10 name with
    | some (.ofNat n) =>
      if n = 0 ∨ groupEnd ≤ n then refuse
      modify fun s => { s with tested := n :: s.tested }
      return n
    | _ => refuse

/-- Run a reader and put the flags back. -/
def withFlags {α : Type} (f : Flags) (r : Reader α) : Reader α := do
  let outer := (← get).flags
  modify fun s => { s with flags := f }
  let a ← r
  modify fun s => { s with flags := outer }
  return a

end Letterhead.Pattern

import Letterhead.Pattern.Reader
import Letterhead.Text.CharName.Basic

/-
  The leaves of a pattern: escapes and bracketed sets. An escape names a character, a class, a
  place in the text or a group; a bracketed set lists characters, ranges and classes.
-/

namespace Letterhead.Pattern

/-! ## Characters and classes -/

/-- The test for a character, with the flags in force. -/
def literal (n : Nat) : Reader Step := return .one (.ofCode false (← get).flags.rule n)

/-- The class that an escaped letter names. -/
def classItem? (ascii : Bool) : Char → Option CharItem
  | 'd' => some (.named .digit false ascii)
  | 'D' => some (.named .digit true ascii)
  | 's' => some (.named .space false ascii)
  | 'S' => some (.named .space true ascii)
  | 'w' => some (.named .word false ascii)
  | 'W' => some (.named .word true ascii)
  | _ => none

/-- The control character that an escaped letter names, or the backslash. -/
def controlCode? : Char → Option Nat
  | 'a' => some 7
  | 'f' => some 12
  | 'n' => some 10
  | 'r' => some 13
  | 't' => some 9
  | 'v' => some 11
  | '\\' => some 92
  | _ => none

/-- The last character that an octal escape can name. -/
def maxOctal : Nat := 255

/-- The character of an octal escape. -/
def octalCode (digits : Text) : Reader Nat := do
  let code := numberOf 8 digits
  if maxOctal < code then refuse
  return code

/-- The character of an escape by number or name, or of an escaped character that is no ASCII
letter or digit. -/
def plainEscape (c : Char) : Reader Nat := do
  match c with
  | 'x' => hexCode 2
  | 'u' => hexCode 4
  | 'U' => hexCode 8
  | 'N' =>
    expect '\x7b'
    match CharName.find? (← textUntil '\x7d') with
    | some n => return n
    | none => refuse
  | c => if c.toNat < 0x80 ∧ c.isAlphanum then refuse else return c.toNat

/-! ## Bracketed sets -/

/-- The item of an escape inside brackets. -/
def bracketEscape (c : Char) : Reader CharItem := do
  match if c = 'b' then some 8 else controlCode? c with
  | some n => return .char n
  | none =>
    match classItem? (← get).flags.ascii c with
    | some item => return item
    | none =>
      if isOctal c then return .char (← octalCode (c :: (← charsUpTo 2 isOctal)))
      else return .char (← plainEscape c)

def bracketItem : Sign → Reader CharItem
  | .plain c => return .char c.toNat
  | .escaped c => bracketEscape c
  | .broken => refuse

/-- The items up to the closing bracket, which is literal where it comes first. -/
def bracketItems : Nat → List CharItem → Reader (List CharItem)
  | 0, _ => refuse
  | fuel + 1, items => do
    let t ← next
    if t = .plain ']' ∧ items ≠ [] then return items
    let first ← bracketItem t
    unless ← accept '-' do return ← bracketItems fuel (items ++ [first])
    let t ← next
    if t = .plain ']' then return items ++ [first, .char '-'.toNat]
    match first, ← bracketItem t with
    | .char lo, .char hi =>
      if hi < lo then refuse
      bracketItems fuel (items ++ [.range lo hi])
    | _, _ => refuse

/-- A bracketed set, after its opening bracket. -/
def bracketed : Reader Step := do
  let negated ← accept '^'
  let items ← bracketItems ((← get).rest.length + 1) []
  let rule := (← get).flags.rule
  match items.eraseDups with
  | [.char n] => return .one (.ofCode negated rule n)
  | items => return .one (.ofItems negated rule items)

/-! ## Escapes -/

/-- The digits of an escape that begins with a digit other than zero: three octal digits are a
character, anything else refers to a group. -/
def digitEscape (c : Char) : Reader Step := do
  match ← peek with
  | some (.plain d) =>
    if !d.isDigit then return ← referTo (numberOf 10 [c])
    skip
    match ← peek with
    | some (.plain e) =>
      if isOctal c ∧ isOctal d ∧ isOctal e then
        skip
        return ← literal (← octalCode [c, d, e])
      referTo (numberOf 10 [c, d])
    | _ => referTo (numberOf 10 [c, d])
  | _ => referTo (numberOf 10 [c])

/-- An escape outside brackets. -/
def escape (c : Char) : Reader Step := do
  let flags := (← get).flags
  match c with
  | 'A' => return .anchor .textStart
  | 'Z' => return .anchor .textEnd
  | 'b' => return .anchor (.wordEdge false flags.ascii)
  | 'B' => return .anchor (.wordEdge true flags.ascii)
  | '0' => literal (numberOf 8 (← charsUpTo 2 isOctal))
  | c =>
    match classItem? flags.ascii c, controlCode? c with
    | some item, _ => return .one (.ofItems false flags.rule [item])
    | none, some n => literal n
    | none, none => if c.isDigit then digitEscape c else literal (← plainEscape c)

end Letterhead.Pattern

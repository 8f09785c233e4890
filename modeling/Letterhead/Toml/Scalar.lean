import Letterhead.Data.Basic
import Letterhead.Number.Whole

/-
  The plain values of TOML: texts in quotes, and the words for truth values, numbers and stamps.
-/

namespace Letterhead.Toml

/-! ## Characters -/

/-- Control characters other than the tab; no text and no comment may hold them as they are. -/
def isControl (c : Char) : Bool := (c.toNat < 0x20 && c != '\t') || c.toNat == 0x7F

/-- The characters that a letter after a backslash stands for. -/
def escapes : List (Char × Char) :=
  [('b', '\x08'), ('t', '\t'), ('n', '\n'), ('f', '\x0c'), ('r', '\r'), ('e', '\x1b'), ('"', '"'),
    ('\\', '\\')]

/-- How many digits a letter after a backslash takes to name a character. -/
def escapeWidths : List (Char × Nat) := [('x', 2), ('u', 4), ('U', 8)]

/-- The character that digits name; the numbers of surrogates name none. -/
def charOf? (digits : Text) : Option Char := do
  let n := (← Whole.ofText? 16 digits).toNat
  if (← Whole.ofText? 16 digits) < 0 ∨ ¬n.isValidChar then none else some (Char.ofNat n)

/-- Read what a backslash in front stands for. -/
def takeEscape? : Text → Option (Char × Text)
  | [] => none
  | e :: s =>
    match escapeWidths.lookup e with
    | none => (escapes.lookup e).map (·, s)
    | some width =>
      if s.length < width then none else (charOf? (s.take width)).map (·, s.drop width)

theorem takeEscape?_length {s r : Text} {c : Char} (h : takeEscape? s = some (c, r)) :
    r.length < s.length := by
  cases s with
  | nil => simp [takeEscape?] at h
  | cons e s =>
    simp only [takeEscape?] at h
    split at h
    · obtain ⟨_, _, h⟩ := Option.map_eq_some_iff.1 h
      cases h
      simp
    · split at h
      · cases h
      · obtain ⟨_, _, h⟩ := Option.map_eq_some_iff.1 h
        cases h
        simp only [List.length_drop, List.length_cons]
        omega

/-! ## Texts in quotes -/

/-- White space inside a line or between lines. -/
def isGap (c : Char) : Bool := c == ' ' || c == '\t' || c == '\n'

/-- Read up to the closing quotes. A text over several lines ends with three quotes, in front of
which it may hold up to two more; a backslash at the end of a line joins it with the next text. -/
def takeBody (quote : Char) (lines : Bool) : Text → Option (Text × Text)
  | [] => none
  | c :: s =>
    if c = quote then
      if !lines then some ([], s)
      else
        match s with
        | a :: b :: t =>
          if a = quote ∧ b = quote then
            match t.takeWhile (· == quote), t.dropWhile (· == quote) with
            | [], t => some ([], t)
            | [x], t => some ([x], t)
            | [x, y], t => some ([x, y], t)
            | _, _ => none
          else (takeBody quote lines (a :: b :: t)).map fun (r, t) => (c :: r, t)
        | s => (takeBody quote lines s).map fun (r, t) => (c :: r, t)
    else if quote = '"' ∧ c = '\\' then
      if lines ∧ s.head?.any isGap then
        if '\n' ∈ s.takeWhile isGap then takeBody quote lines (s.dropWhile isGap) else none
      else
        match _h : takeEscape? s with
        | some (x, t) => (takeBody quote lines t).map fun (r, t) => (x :: r, t)
        | none => none
    else if isControl c ∧ ¬(lines ∧ c = '\n') then none
    else (takeBody quote lines s).map fun (r, t) => (c :: r, t)
termination_by s => s.length
decreasing_by
  all_goals simp_all
  all_goals try have := takeEscape?_length _h
  all_goals have := (List.dropWhile_suffix isGap (l := s)).length_le
  all_goals omega

/-- Read a text that begins with a quote; three quotes begin one over several lines. A line break
right after them is no part of the text. -/
def takeText : Text → Option (Text × Text)
  | q :: a :: b :: s =>
    if a = q ∧ b = q then
      takeBody q true (match s with
        | '\n' :: s => s
        | s => s)
    else takeBody q false (a :: b :: s)
  | q :: s => takeBody q false s
  | [] => none

/-! ## Numbers -/

/-- Leave out the underscores, each of which has to stand between two digits. -/
def joinDigits (isDigit : Char → Bool) (afterDigit : Bool) : Text → Option Text
  | [] => some []
  | c :: s =>
    if c = '_' then
      if afterDigit && s.head?.any isDigit then joinDigits isDigit false s else none
    else (joinDigits isDigit (isDigit c) s).map (c :: ·)

/-- The base that a number is written in. -/
def baseOf : Text → Nat
  | '0' :: 'b' :: _ => 2
  | '0' :: 'o' :: _ => 8
  | '0' :: 'x' :: _ => 16
  | _ => 10

/-- Whether a zero stands in front of other digits. -/
def hasIdleZero (s : Text) : Bool :=
  match s with
  | '0' :: c :: _ => !(c == '.' || c == 'e' || c == 'E') && baseOf s == 10
  | _ => false

/-- Whether a decimal point has no digit behind it. -/
def hasLoosePoint (s : Text) : Bool :=
  s.getLast? == some '.' ||
    baseOf s != 16 && (s.takeWhile fun c => c != 'e' && c != 'E').getLast? == some '.'

/-- Read the digits of a number after its sign, if it has one. What is no whole number can be one
with a point or an exponent. -/
def unsigned? (sign : Option Char) (s : Text) : Option Datum := do
  let base := baseOf s
  if hasIdleZero s ∨ (sign.isSome ∧ (s.head? = some '.' ∨ base ≠ 10)) then none
  let digits ← joinDigits (fun c => (Whole.digitOf? base c).isSome) false s
  if hasLoosePoint digits then none
  match Whole.ofText? base (sign.toList ++ digits) with
  | some n => return .int n
  | none =>
    return .float (← Double.ofUnsigned? (sign = some '-') (← Whole.plain? digits))

/-- Read a number: a whole one in any base, one with an exponent or a point, or one that is not
finite. Only a decimal one may have a sign. -/
def number? (word : Text) : Option Datum :=
  let (sign, s) := match word with
    | '+' :: s => (some '+', s)
    | '-' :: s => (some '-', s)
    | s => (none, s)
  if s = "inf".toList then some (.float (.infinite (sign = some '-')))
  else if s = "nan".toList then some (.float .nan)
  else unsigned? sign s

/-! ## Stamps -/

/-- The value of decimal digits. -/
def decimalOf (digits : Text) : Nat :=
  digits.foldl (fun n c => n * 10 + (c.toNat - '0'.toNat)) 0

/-- A number of exactly `n` decimal digits. -/
def takeNumber (n : Nat) (s : Text) : Option (Nat × Text) :=
  let digits := s.take n
  if digits.length = n ∧ digits.all Char.isDigit then some (decimalOf digits, s.drop n) else none

/-- A given character. -/
def takeChar (c : Char) : Text → Option Text
  | d :: s => if d = c then some s else none
  | [] => none

/-- A year, which may have any number of digits. -/
def takeYear (s : Text) : Option (Nat × Text) :=
  let digits := s.takeWhile Char.isDigit
  if digits = [] then none else some (decimalOf digits, s.dropWhile Char.isDigit)

def takeDate (s : Text) : Option (Date × Text) := do
  let (year, s) ← takeYear s
  let (month, s) ← takeNumber 2 (← takeChar '-' s)
  let (day, s) ← takeNumber 2 (← takeChar '-' s)
  some (⟨year, month, day⟩, s)

/-- The first six places behind the point of a second, as microseconds. -/
def takeFraction : Text → Option (Nat × Text)
  | '.' :: s =>
    let digits := s.takeWhile Char.isDigit
    if digits = [] then none
    else some (decimalOf ((digits ++ List.replicate 6 '0').take 6), s.dropWhile Char.isDigit)
  | s => some (0, s)

/-- A time of day; the seconds may be missing. -/
def takeTime (s : Text) : Option (DayTime × Text) := do
  let (hour, s) ← takeNumber 2 s
  let (minute, s) ← takeNumber 2 (← takeChar ':' s)
  match s with
  | ':' :: s =>
    let (second, s) ← takeNumber 2 s
    let (microsecond, s) ← takeFraction s
    some (⟨hour, minute, second, microsecond⟩, s)
  | s => some (⟨hour, minute, 0, 0⟩, s)

/-- The zone at the end of a stamp; it may be missing. A bar is as good as a plus sign. -/
def zoneOf? : Text → Option (Option Zone)
  | [] => some none
  | c :: s =>
    if c = 'Z' ∨ c = 'z' then if s = [] then some (some .utc) else none
    else if c = '+' ∨ c = '-' ∨ c = '|' then do
      let (hours, s) ← takeNumber 2 s
      let (minutes, s) ← takeNumber 2 (← takeChar ':' s)
      if s = [] ∧ hours < 24 ∧ minutes < 60 then some (some (.offset c hours minutes))
      else none
    else none

/-- Read a time of day without a zone. -/
def time? (word : Text) : Option Stamp := do
  let (t, rest) ← takeTime word
  if t.isValid ∧ rest = [] then some (.time t) else none

/-- Read a date, perhaps with a time of day. -/
def date? (word : Text) : Option Stamp := do
  let (d, rest) ← takeDate word
  if !d.isValid then none
  else
    match rest with
    | [] => some (.date d)
    | c :: s =>
      if c = 'T' ∨ c = 't' ∨ c = ' ' then do
        let (t, rest) ← takeTime s
        let zone ← zoneOf? rest
        if t.isValid then some (.dateTime d t zone) else none
      else none

def stamp? (word : Text) : Option Stamp := date? word <|> time? word

end Letterhead.Toml

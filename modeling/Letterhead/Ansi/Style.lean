import Letterhead.Text.Basic

/-
  Styled texts for terminals. A style is switched on before a text and off after it. It is also
  switched off around every line break in the text, so that it never runs on beyond the text, and
  around every part of a line that stands between two resets, which keeps the style of its own.
-/

namespace Letterhead.Ansi

/-- An attribute of text, by the numbers that switch it on and off. -/
structure Attribute where
  on : Nat
  off : Nat
  deriving DecidableEq, Repr

/-- Attributes that are switched on, and off, in the same order. -/
abbrev Style := List Attribute

namespace Style

def bold : Style := [⟨1, 22⟩]
def dim : Style := [⟨2, 22⟩]
def red : Style := [⟨31, 39⟩]
def green : Style := [⟨32, 39⟩]
def yellow : Style := [⟨33, 39⟩]
def blue : Style := [⟨34, 39⟩]
def cyan : Style := [⟨36, 39⟩]
def white : Style := [⟨37, 39⟩]
def gray : Style := [⟨90, 39⟩]
def brightRed : Style := [⟨91, 39⟩]

end Style

/-- The sequence for a number. -/
def sequence (n : Nat) : Text := '\x1b' :: '[' :: Nat.toDigits 10 n ++ ['m']

def Style.opening (st : Style) : Text := st.flatMap fun a => sequence a.on
def Style.closing (st : Style) : Text := st.flatMap fun a => sequence a.off

/-- Write `opening` after every sequence in a text that switches an attribute of the style off. -/
def reopened (st : Style) (s : Text) : Text :=
  st.foldl (fun s a => Text.replaceAll (sequence a.off) (sequence a.off ++ sequence a.on) s) s

/-- The sequence that switches all attributes off. -/
def reset : Text := sequence 0

/-- Join the parts of a line that resets separate: every second part stands between two resets, and
gets `closing` before the first of them and `opening` after the second. -/
def joinParts (opening closing : Text) : List Text → Text
  | [] => []
  | [s] => s
  | [s, t] => s ++ reset ++ t
  | s :: t :: parts =>
    s ++ closing ++ reset ++ t ++ reset ++ opening ++ joinParts opening closing parts

/-- Switch a style off around the parts of lines that stand between two resets. -/
def isolated (opening closing : Text) (s : Text) : Text :=
  Text.joinWith ['\n']
    ((Text.splitOn ['\n'] s).map fun line =>
      joinParts opening closing (Text.splitOn reset line))

/-- Write `closing` before every line feed, or CR and LF, and `opening` after it. -/
def interrupted (opening closing : Text) : Text → Text
  | [] => []
  | '\r' :: '\n' :: s => closing ++ '\r' :: '\n' :: opening ++ interrupted opening closing s
  | '\n' :: s => closing ++ '\n' :: opening ++ interrupted opening closing s
  | c :: s => c :: interrupted opening closing s

/-- What puts a text into a style. `paint` is one; what a preview tells does not depend on which one
it is. -/
abbrev Painter := Style → Text → Text

/-- A text in a style. -/
def paint (st : Style) (s : Text) : Text :=
  st.opening ++
    interrupted st.opening st.closing (isolated st.opening st.closing (reopened st s)) ++ st.closing

/-- A text after sequences that switch attributes on, and before a reset. -/
def marked (attributes : List Nat) (s : Text) : Text :=
  attributes.flatMap sequence ++ s ++ reset

/-! ## Plain texts -/

/-- The length of the sequence that a text begins with, less one: an escape character, a bracket,
parameters (digits and the signs up to `?`), the signs before the digits, and a last sign. -/
def sequenceAt? (s : Text) : Option Nat :=
  match s with
  | '\x1b' :: '[' :: t =>
    let parameters := t.takeWhile fun c => '0' ≤ c && c ≤ '?'
    let signs := (t.drop parameters.length).takeWhile fun c => ' ' ≤ c && c ≤ '/'
    let length := parameters.length + signs.length
    if (t[length]?).any fun c => '@' ≤ c && c ≤ '~' then some (length + 2) else none
  | _ => none

/-- A text without its sequences; the number counts the characters of one that are still to be left
out. -/
def plainFrom : Nat → Text → Text
  | _, [] => []
  | skip + 1, _ :: s => plainFrom skip s
  | 0, c :: s =>
    match sequenceAt? (c :: s) with
    | some n => plainFrom n s
    | none => c :: plainFrom 0 s

/-- A text without its sequences. -/
def plain (s : Text) : Text := plainFrom 0 s

end Letterhead.Ansi

import Letterhead.Text.LineBreak

/-
  Header templates: lines of text with tokens such as `%FileName%`, which stand for facts about
  the document. Tokens are replaced one after the other; a token whose fact is unknown stays.
-/

namespace Letterhead

/-- A point of time in the local calendar. -/
structure Moment where
  year : Nat
  month : Nat
  day : Nat
  hour : Nat := 0
  minute : Nat := 0
  second : Nat := 0
  deriving DecidableEq, Repr

/-- A number in decimal digits. -/
def decimal (n : Nat) : Text := Nat.toDigits 10 n

/-- A number in at least two decimal digits. -/
def twoDigits (n : Nat) : Text := if n < 10 then '0' :: decimal n else decimal n

/-- The time of day, as hours and minutes. -/
def Moment.timeOfDay (m : Moment) : Text := twoDigits m.hour ++ ':' :: twoDigits m.minute

namespace Template

/-- What is known about a document: its absolute path and its name, the time when it was made, the
current time, the user and the project. -/
structure Facts where
  fullName : Option Text := none
  fileName : Option Text := none
  created : Option Moment := none
  now : Moment
  user : Option Text := none
  project : Option Text := none
  deriving DecidableEq, Repr

/-- A token with its value, if it has one. -/
abbrev Binding := Text × Option Text

/-- The built-in tokens, in the order in which they are replaced. -/
def bindings (f : Facts) : List Binding := [
  ("%FullFileName%".toList, f.fullName),
  ("%FileName%".toList, f.fileName),
  ("%CreationYear%".toList, f.created.map (decimal ·.year)),
  ("%CreationMonth%".toList, f.created.map (decimal ·.month)),
  ("%CreationDay%".toList, f.created.map (decimal ·.day)),
  ("%CreationTime%".toList, f.created.map (·.timeOfDay)),
  ("%CurrentYear%".toList, some (decimal f.now.year)),
  ("%CurrentMonth%".toList, some (decimal f.now.month)),
  ("%CurrentDay%".toList, some (decimal f.now.day)),
  ("%CurrentTime%".toList, some f.now.timeOfDay),
  ("%UserName%".toList, f.user),
  ("%Project%".toList, f.project.filter (· ≠ []))]

/-- Replace every occurrence of a token that has a value. -/
def bind (b : Binding) (s : Text) : Text :=
  match b.2 with
  | some value => if Text.hasPart b.1 s then Text.replaceAll b.1 value s else s
  | none => s

/-- Join the lines of a template and replace the tokens in the order given. -/
def expand (bs : List Binding) (lines : List Text) (lineBreak : Text) : Text :=
  bs.foldl (fun s b => bind b s) (Text.joinWith lineBreak lines)

end Template
end Letterhead

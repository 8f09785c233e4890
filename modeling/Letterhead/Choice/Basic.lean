import Letterhead.Ansi.Style
import Letterhead.Text.Lower

/-
  Choices: types with finitely many values, each with a label. A value is read from its label in
  any case, and the labels complete what has been typed of one.
-/

namespace Letterhead

/-- A type whose values are known by their labels. -/
class Choice (α : Type) where
  all : List α
  label : α → String

/-- A type whose labels are shown in a style. -/
class Styled (α : Type) where
  style : α → Ansi.Style

/-- A text that is no label of a choice. -/
structure BadChoice where
  text : Text
  labels : List Text
  deriving DecidableEq, Repr

def BadChoice.message (e : BadChoice) : String :=
  "Invalid value '" ++ String.ofList e.text ++ "'. Must be one of: " ++
    String.ofList (Text.joinWith ", ".toList e.labels)

namespace Choice

variable (α : Type) [Choice α]

/-- The labels, in order. -/
def labels : List Text := (all : List α).map fun a => (label a).toList

/-- The value with a given label. -/
def ofText (s : Text) : Except BadChoice α :=
  match (all : List α).find? fun a => Text.lower (label a).toList == Text.lower s with
  | some a => .ok a
  | none => .error ⟨s, labels α⟩

/-- The labels as a usage line shows them. -/
def menu : Text := '[' :: Text.joinWith ['|'] (labels α) ++ [']']

/-- The labels that begin as a text does. -/
def completions (s : Text) : List Text := (labels α).filter (Text.beginsWith (Text.lower s))

end Choice

/-- A text in the style of a value. -/
def Styled.paint {α : Type} [Styled α] (a : α) (s : Text) : Text := Ansi.paint (style a) s

end Letterhead

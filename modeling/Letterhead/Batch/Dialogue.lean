import Letterhead.Ansi.Style
import Letterhead.Text.Blank
import Letterhead.Text.Lower

/-
  Dialogues: questions that are answered with yes or no, one line each. The lines that will be
  typed are given in advance; the transcript shows the questions with the answers.
-/

namespace Letterhead

/-- The lines that are still to be read, and what has been shown so far; unless `styled`, questions
are shown without styles. -/
structure Dialogue where
  input : List Text
  transcript : Text := []
  styled : Bool := false
  deriving DecidableEq, Repr

namespace Dialogue

/-- The answer that a line gives; an empty line says no. -/
def answer? (line : Text) : Option Bool :=
  let word := Text.trim (Text.lower line)
  if word ∈ ["y".toList, "yes".toList] then some true
  else if word ∈ ["n".toList, "no".toList, []] then some false
  else none

/-- A question as it is shown. -/
def shown (styled : Bool) (question : Text) : Text :=
  let line := question ++ " [y/N]: ".toList
  if styled then line else Ansi.plain line

/-- Ask until a line gives an answer: the transcript, which begins with a given one, and the lines
that are left. -/
def askFrom (question transcript : Text) : List Text → Option Bool × Text × List Text
  | [] => (none, transcript ++ question, [])
  | line :: lines =>
    let transcript := transcript ++ question ++ line ++ ['\n']
    match answer? line with
    | some b => (some b, transcript, lines)
    | none => askFrom question (transcript ++ "Error: invalid input\n".toList) lines

/-- Ask a question. There is no answer when the input ends. -/
def ask (d : Dialogue) (question : Text) : Option Bool × Dialogue :=
  let (answer, transcript, input) := askFrom (shown d.styled question) d.transcript d.input
  (answer, { d with input, transcript })

end Dialogue
end Letterhead

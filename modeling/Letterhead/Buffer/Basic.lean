import Letterhead.Text.LineBreak
import Letterhead.Text.Quoted

/-
  Buffers: an editable text of which the part from an offset on is the document. Edits name
  offsets and are refused outside the text. A buffer can also refuse an edit for reasons of its
  own; a refused edit changes nothing but the schedule of refusals. No edit looks at what a text is
  made of: characters, or code points where surrogates may come in.
-/

namespace Letterhead

/-- Why a buffer refuses to read or to edit. -/
inductive BufferError where
  | outOfRange (start stop : Int) (length : Nat)
  | refused (reason : String)
  deriving DecidableEq, Repr

def BufferError.message : BufferError → String
  | outOfRange start stop length =>
    s!"invalid range [{start}, {stop}) for buffer of length {length}"
  | refused reason => reason

/-- A text with the offset where the document starts and the line break to write. The schedules
hold, for the coming insertions and deletions, the reason of each that will be refused. -/
structure Buffer (α : Type := Char) where
  text : List α
  start : Nat := 0
  lineBreak : Text
  insertRefusals : List (Option String) := []
  deleteRefusals : List (Option String) := []
  deriving DecidableEq, Repr

/-- An edit of a buffer. -/
inductive Buffer.Edit (α : Type := Char) where
  | insert (offset : Int) (s : List α)
  | delete (start stop : Int)
  deriving Repr

namespace Buffer

variable {α : Type}

/-- A buffer that writes the most frequent line break of its text. -/
def ofText (s : Text) : Buffer := { text := s, lineBreak := (Text.dominantBreak s).text }

/-- The offsets of a range inside the text. -/
def range (b : Buffer α) (start stop : Int) : Except BufferError (Nat × Nat) :=
  if 0 ≤ start ∧ start ≤ stop ∧ stop ≤ b.text.length then .ok (start.toNat, stop.toNat)
  else .error (.outOfRange start stop b.text.length)

/-- The text between two offsets. -/
def read (b : Buffer α) (start stop : Int) : Except BufferError (List α) := do
  let (i, j) ← b.range start stop
  return (b.text.take j).drop i

/-- Insert a text at an offset. -/
def insert (b : Buffer α) (offset : Int) (s : List α) : Except BufferError Unit × Buffer α :=
  let b' := { b with insertRefusals := b.insertRefusals.tail }
  match b.insertRefusals.head?.join with
  | some reason => (.error (.refused reason), b')
  | none =>
    match b.range offset offset with
    | .error e => (.error e, b')
    | .ok (i, _) => (.ok (), { b' with text := b.text.take i ++ s ++ b.text.drop i })

/-- Delete the text between two offsets. -/
def delete (b : Buffer α) (start stop : Int) : Except BufferError Unit × Buffer α :=
  let b' := { b with deleteRefusals := b.deleteRefusals.tail }
  match b.deleteRefusals.head?.join with
  | some reason => (.error (.refused reason), b')
  | none =>
    match b.range start stop with
    | .error e => (.error e, b')
    | .ok (i, j) => (.ok (), { b' with text := b.text.take i ++ b.text.drop j })

/-- Carry out an edit. -/
def edit (b : Buffer α) : Edit α → Except BufferError Unit × Buffer α
  | .insert offset s => b.insert offset s
  | .delete start stop => b.delete start stop

/-- The document: the text from the start offset to the end. -/
def document (b : Buffer α) : Except BufferError (List α) := b.read b.start b.text.length

/-- A one-line description of a buffer. -/
def describe (b : Buffer α) : String :=
  s!"TextBuffer(len={b.text.length}, newline={Text.quotedString b.lineBreak})"

end Buffer
end Letterhead

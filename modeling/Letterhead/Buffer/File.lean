import Letterhead.Buffer.Basic
import Letterhead.Text.Utf8

/-
  Text files: bytes that hold a text in UTF-8, perhaps after a byte order mark. The mark is not
  part of the text and is written back. A text of characters has bytes always (`TextFile.toBytes`);
  a file that is open for edits can be handed surrogates, and then it cannot be saved
  (`OpenFile.save`).
-/

namespace Letterhead

/-- The text of a file, and whether a byte order mark precedes it. -/
structure TextFile where
  marked : Bool
  text : Text
  deriving DecidableEq, Repr

namespace TextFile

/-- The text of bytes; bytes with a zero byte or with broken UTF-8 are no text. -/
def ofBytes? (bytes : List UInt8) : Option TextFile :=
  if bytes.contains 0 then none
  else
    let (marked, rest) := Utf8.dropMark bytes
    (Utf8.decode? rest).map fun text => ⟨marked, text⟩

/-- The bytes of a text file; there always are some, as its text holds nothing but characters. -/
def toBytes (f : TextFile) : List UInt8 :=
  (if f.marked then Utf8.mark else []) ++ Utf8.encode f.text

end TextFile

/-- A text file that is open for edits. -/
structure OpenFile where
  marked : Bool
  buffer : Buffer CodePoint
  original : List CodePoint

namespace OpenFile

/-- A text file as it is opened. -/
def ofFile (f : TextFile) : OpenFile :=
  let points := CodePoint.ofText f.text
  { marked := f.marked
    buffer := { text := points, lineBreak := (Text.dominantBreak f.text).text }
    original := points }

/-- Open the bytes of a file. -/
def ofBytes? (bytes : List UInt8) : Option OpenFile := (TextFile.ofBytes? bytes).map ofFile

/-- The file behind an edit, when the edit is accepted. -/
def edit (o : OpenFile) (e : Buffer.Edit CodePoint) : Except BufferError OpenFile :=
  match o.buffer.edit e with
  | (.ok (), b) => .ok { o with buffer := b }
  | (.error cause, _) => .error cause

/-- The file behind edits, when all of them are accepted. -/
def editAll (o : OpenFile) (es : List (Buffer.Edit CodePoint)) : Except BufferError OpenFile :=
  es.foldlM edit o

/-- Whether the text is another one than was opened. -/
def isModified (o : OpenFile) : Bool := o.buffer.text != o.original

/-- The bytes that are saved. A text with a surrogate has none, and then nothing is written. -/
def save (o : OpenFile) : Except Utf8.Unencodable (List UInt8) :=
  (Utf8.encodePoints o.buffer.text).map ((if o.marked then Utf8.mark else []) ++ ·)

end OpenFile
end Letterhead

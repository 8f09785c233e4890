import Letterhead.Text.CodePoint

/-
  UTF-8: the bytes of a text and the text of bytes. The byte order mark is the encoding of U+FEFF.
  Surrogates that stand alone have no bytes.
-/

namespace Letterhead.Utf8

/-- The bytes of a text. -/
def encode (s : Text) : List UInt8 := s.flatMap String.utf8EncodeChar

/-- The text of bytes, if they are the encoding of one. -/
def decode? (bytes : List UInt8) : Option Text :=
  bytes.toByteArray.utf8Decode?.map (·.toList)

theorem decode?_encode (s : Text) : decode? (encode s) = some s := by
  rw [decode?, encode, ← List.utf8Encode, List.utf8Decode?_utf8Encode]
  simp

/-- The first run of code points that have no bytes, by its place in the text. -/
structure Unencodable where
  start : Nat
  stop : Nat
  deriving DecidableEq, Repr

/-- The bytes of code points. -/
def encodePoints (ps : List CodePoint) : Except Unencodable (List UInt8) :=
  match CodePoint.text? ps with
  | some s => .ok (encode s)
  | none =>
    let start := (ps.takeWhile CodePoint.isChar).length
    let run := (ps.drop start).takeWhile (! ·.isChar)
    .error ⟨start, start + run.length⟩

/-- The byte order mark. -/
def mark : List UInt8 := [0xEF, 0xBB, 0xBF]

/-- The bytes after a byte order mark, and whether there was one. -/
def dropMark (bytes : List UInt8) : Bool × List UInt8 :=
  match bytes with
  | 0xEF :: 0xBB :: 0xBF :: rest => (true, rest)
  | _ => (false, bytes)

end Letterhead.Utf8

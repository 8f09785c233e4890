import Letterhead.Text.Basic

/-
  Character sets with one byte for each character.
-/

namespace Letterhead

/-- What is written in a table where a set has no character. -/
def noCharacter : Char := '\uFFFD'

/-- A character set with its names. Bytes before `first` stand for the characters with their
numbers, and the others for those of the table. -/
structure ByteTable where
  name : String
  aliases : List String := []
  first : Nat := 0x80
  chars : String
  deriving DecidableEq, Repr

namespace ByteTable

/-- The character of a byte. -/
def char? (t : ByteTable) (b : Nat) : Option Char :=
  if b < t.first then some (Char.ofNat b)
  else (t.chars.toList[b - t.first]?).filter (· != noCharacter)

/-- The text of bytes. -/
def decode? (t : ByteTable) (bytes : List Nat) : Option Text := bytes.mapM t.char?

/-- The bytes below 0x80. -/
def ascii : ByteTable where
  name := "ascii"
  aliases := ["646", "ansi_x3.4_1968", "ansi_x3_4_1968", "ansi_x3.4_1986", "cp367", "csascii",
    "ibm367", "iso646_us", "iso_646.irv_1991", "iso_ir_6", "us", "us_ascii"]
  chars := ""

/-- All bytes, as the characters with their numbers. -/
def latin1 : ByteTable where
  name := "latin_1"
  aliases := ["8859", "cp819", "csisolatin1", "ibm819", "iso8859", "iso8859_1", "iso_8859_1",
    "iso_8859_1_1987", "iso_ir_100", "l1", "latin", "latin1", "charmap"]
  first := 0x100
  chars := ""

end ByteTable
end Letterhead

import Letterhead.Text.Codec.Dos
import Letterhead.Text.Codec.Ebcdic
import Letterhead.Text.Codec.Escapes
import Letterhead.Text.Codec.Iso
import Letterhead.Text.Codec.Mac
import Letterhead.Text.Codec.Punycode
import Letterhead.Text.Codec.Regional
import Letterhead.Text.Codec.Switching
import Letterhead.Text.Codec.Utf7
import Letterhead.Text.Codec.Windows
import Letterhead.Text.Utf8

/-
  Text encodings by name. Names are compared without regard to case and to the signs between their
  parts, and most encodings have several. `Codec.find` looks a name up and `Codec.decode` gives the
  text of bytes.
-/

namespace Letterhead

/-- The encodings. The last one refuses all text. -/
inductive Codec where
  | utf8 (dropsMark : Bool)
  | utf7
  | utf16 (big : Option Bool)
  | utf32 (big : Option Bool)
  | bytes (table : ByteTable)
  | japanese (form : Japanese)
  | korean (form : Korean)
  | chinese (form : Chinese)
  | tildes
  | switching (form : Switching)
  | escapes (raw : Bool)
  | punycode
  | labels
  | undefined
  deriving DecidableEq, Repr

namespace Codec

/-! ## Names -/

/-- An encoding with its names in normal form. -/
structure Entry where
  codec : Codec
  name : String
  aliases : List String := []

/-- The encodings of Unicode, and those that take text apart in other ways. -/
def general : List Entry := [
    ⟨.utf8 false, "utf_8", ["u8", "utf", "utf8", "utf8_ucs2", "utf8_ucs4", "cp65001"]⟩,
    ⟨.utf8 true, "utf_8_sig", []⟩,
    ⟨.utf7, "utf_7", ["u7", "utf7", "unicode_1_1_utf_7"]⟩,
    ⟨.utf16 none, "utf_16", ["u16", "utf16"]⟩,
    ⟨.utf16 (some false), "utf_16_le", ["unicodelittleunmarked", "utf_16le"]⟩,
    ⟨.utf16 (some true), "utf_16_be", ["unicodebigunmarked", "utf_16be"]⟩,
    ⟨.utf32 none, "utf_32", ["u32", "utf32"]⟩,
    ⟨.utf32 (some false), "utf_32_le", ["utf_32le"]⟩,
    ⟨.utf32 (some true), "utf_32_be", ["utf_32be"]⟩,
    ⟨.escapes false, "unicode_escape", []⟩,
    ⟨.escapes true, "raw_unicode_escape", []⟩,
    ⟨.punycode, "punycode", []⟩,
    ⟨.labels, "idna", []⟩,
    ⟨.undefined, "undefined", []⟩]

/-- The encodings of East Asia. -/
def eastern : List Entry := [
    ⟨.japanese .shifted, "shift_jis", ["csshiftjis", "shiftjis", "sjis", "s_jis", "x_mac_japanese"]⟩,
    ⟨.japanese .shiftedWindows, "cp932", ["932", "ms932", "mskanji", "ms_kanji"]⟩,
    ⟨.japanese .shifted2004, "shift_jis_2004", ["shiftjis2004", "sjis_2004", "s_jis_2004"]⟩,
    ⟨.japanese .shifted2000, "shift_jisx0213", ["shiftjisx0213", "sjisx0213", "s_jisx0213"]⟩,
    ⟨.japanese .extended, "euc_jp", ["eucjp", "ujis", "u_jis"]⟩,
    ⟨.japanese .extended2004, "euc_jis_2004", ["jisx0213", "eucjis2004", "euc_jis2004"]⟩,
    ⟨.japanese .extended2000, "euc_jisx0213", ["eucjisx0213"]⟩,
    ⟨.korean .chart, "euc_kr", ["euckr", "korean", "ksc5601", "ks_c_5601", "ks_c_5601_1987",
      "ksx1001", "ks_x_1001", "x_mac_korean"]⟩,
    ⟨.korean .windows, "cp949", ["949", "ms949", "uhc"]⟩,
    ⟨.korean .lettered, "johab", ["cp1361", "ms1361"]⟩,
    ⟨.chinese .gb2312, "gb2312", ["chinese", "csiso58gb231280", "euc_cn", "euccn", "eucgb2312_cn",
      "gb2312_1980", "gb2312_80", "iso_ir_58", "x_mac_simp_chinese"]⟩,
    ⟨.chinese .gbk, "gbk", ["936", "cp936", "ms936"]⟩,
    ⟨.chinese .gb18030, "gb18030", ["gb18030_2000"]⟩,
    ⟨.tildes, "hz", ["hzgb", "hz_gb", "hz_gb_2312"]⟩,
    ⟨.chinese .big5, "big5", ["big5_tw", "csbig5", "x_mac_trad_chinese"]⟩,
    ⟨.chinese .big5Windows, "cp950", ["950", "ms950"]⟩,
    ⟨.chinese .hkscs, "big5hkscs", ["big5_hkscs", "hkscs"]⟩]

/-- The encodings with one byte for each character. -/
def narrow : List Entry :=
  let tables := [ByteTable.ascii, ByteTable.latin1] ++ ByteTable.windows ++ ByteTable.iso ++
    ByteTable.dos ++ ByteTable.mac ++ ByteTable.regional ++ ByteTable.ebcdic
  tables.map fun t => ⟨.bytes t, t.name, t.aliases⟩

/-- All encodings. -/
def all : List Entry :=
  general ++ narrow ++ eastern ++ Switching.all.map fun c => ⟨.switching c, c.name, c.aliases⟩

/-- Transformations that are named like encodings but do not give text. -/
def transformations : List (String × List String) :=
  [("base64_codec", ["base64", "base_64"]), ("bz2_codec", ["bz2"]), ("hex_codec", ["hex"]),
    ("quopri_codec", ["quopri", "quoted_printable", "quotedprintable"]), ("rot_13", ["rot13"]),
    ("uu_codec", ["uu"]), ("zlib_codec", ["zip", "zlib"])]

/-- The parts of a name: its stretches of ASCII letters, digits and dots, in lower case. -/
def nameParts : Text → Text × List Text
  | [] => ([], [])
  | c :: s =>
    let (w, ws) := nameParts s
    if c.isAlphanum || c == '.' then (c.toLower :: w, ws)
    else ([], if w = [] then ws else w :: ws)

/-- A name in normal form: its parts with underscores between them. -/
def normalName (name : Text) : Text :=
  let (w, ws) := nameParts name
  Text.joinWith ['_'] (if w = [] then ws else w :: ws)

/-- Whether a name in normal form is one of some names; among the further ones dots are as good as
underscores. -/
def isNamed (name : Text) (own : String) (aliases : List String) : Bool :=
  let dotless := name.map fun c => if c = '.' then '_' else c
  own.toList == name || aliases.any fun a => a.toList == name || a.toList == dotless

/-- Why a name gives no encoding. -/
inductive NameFault where
  | unknown
  | notText
  deriving DecidableEq, Repr

/-- The encoding of a name. -/
def find (name : Text) : Except NameFault Codec :=
  let name := normalName name
  match all.find? fun e => isNamed name e.name e.aliases with
  | some e => .ok e.codec
  | none =>
    .error (if transformations.any fun (own, aliases) => isNamed name own aliases then .notText
      else .unknown)

/-! ## Decoding -/

/-- The text of bytes. UTF-16 and UTF-32 need a mark where their names leave the order open. -/
def decode (c : Codec) (input : List UInt8) : Except DecodeFault Text :=
  let ns := input.map UInt8.toNat
  let steps := fun (step : ByteStep Unit) => Wide.valid ((step.read () ns).map (·.1))
  match c with
  | utf8 false => Wide.valid (Utf8.decode? input)
  | utf8 true =>
    -- The start of a mark is taken to be waiting for the rest of it.
    if input.length < Utf8.mark.length && input.isPrefixOf Utf8.mark then .ok []
    else Wide.valid (Utf8.decode? (Utf8.dropMark input).2)
  | utf7 => Wide.valid (Utf7.decode? ns)
  | utf16 big => Wide.decode16 big ns
  | utf32 big => Wide.decode32 big ns
  | bytes table => Wide.valid (table.decode? ns)
  | japanese form => steps form.step
  | korean form => steps form.step
  | chinese form => steps form.step
  | tildes => Wide.valid ((ByteStep.read tildeStep false ns).map (·.1))
  | switching form => Wide.valid ((ByteStep.read form.step {} ns).map (·.1))
  | escapes raw => Wide.valid (Escapes.decode? raw ns)
  | punycode => Punycode.decode ns
  | labels => Punycode.decodeLabels ns
  | undefined => .error .refused

end Codec
end Letterhead

import Letterhead.Text.Blank
import Letterhead.Text.Lower
import Letterhead.Text.WordChar

/-
  The tests that a pattern puts to a single character. Characters are named by code points, since a
  pattern may name surrogates, which no text holds. `CharSet.contains` is the meaning of a test.
-/

namespace Letterhead

/-! ## Case -/

/-- How two characters are compared: as they are, or as letters without their case. -/
inductive CaseRule where
  | exact
  | asciiFold
  | fold
  deriving DecidableEq, Repr

namespace CaseRule

/-- The lower case of a character. -/
def lower : CaseRule → Char → Char
  | exact, c => c
  | asciiFold, c => c.toLower
  | fold, c => lowerChar c

/-- The lower case of a code point. -/
def lowerNumber : CaseRule → Nat → Nat
  | exact, n => n
  | asciiFold, n => if n < 0x80 then lowerCode n else n
  | fold, n => lowerCode n

/-- The lower case code points that are the same letter as a lower case one. -/
def letters : CaseRule → Nat → List Nat
  | exact, n | asciiFold, n => [n]
  | fold, n => sameLetters n

/-- All code points that are the same letter as a lower case one. -/
def variants : CaseRule → Nat → List Nat
  | exact, n => [n]
  | asciiFold, n => if 0x61 ≤ n ∧ n ≤ 0x7A then [n, n - 32] else [n]
  | fold, n => caseVariants n

/-- Whether some code point of a range is a letter with a case. -/
def meetsLetters : CaseRule → Nat → Nat → Bool
  | exact, _, _ => false
  | asciiFold, first, last => hasAsciiLetter first last
  | fold, first, last => hasCased first last

end CaseRule

/-! ## Classes -/

/-- The named classes of characters. -/
inductive CharClass where
  | digit
  | space
  | word
  deriving DecidableEq, Repr

/-- Membership in a class; with `ascii` only characters below U+0080 belong to it. -/
def CharClass.contains (k : CharClass) (ascii : Bool) (c : Char) : Bool :=
  (!ascii || c.toNat < 0x80) &&
    match k with
    | digit => isDigitChar c
    | space => isBlank c && !(ascii && 28 ≤ c.toNat && c.toNat ≤ 31)
    | word => isWordChar c

/-! ## Sets -/

/-- One member of a set. -/
inductive CharItem where
  | char (n : Nat)
  | range (first last : Nat)
  | named (k : CharClass) (negated ascii : Bool)
  deriving DecidableEq, Repr

namespace CharItem

/-- The first code point beyond the basic plane. -/
def planeEnd : Nat := 0x10000

/-- Whether an item covers a character. A rule that ignores case finds the character in lower case;
beyond the basic plane it takes single characters as they are. -/
def covers (rule : CaseRule) (c : Char) : CharItem → Bool
  | char n =>
    if n < planeEnd then (rule.variants c.toNat).contains n else c.toNat == n
  | range first last => (rule.variants c.toNat).any fun n => first ≤ n && n ≤ last
  | named k negated ascii => k.contains ascii c != negated

/-- Whether an item calls for a comparison without regard to case. -/
def folds (rule : CaseRule) : CharItem → Bool
  | char n => rule != .exact && (planeEnd ≤ n || rule.meetsLetters n n)
  | range first last => rule != .exact && (planeEnd ≤ last || rule.meetsLetters first last)
  | named .. => false

end CharItem

/-- A test for one character: any at all, any but the line feed, a given one, or one of some items;
the last two can be negated. -/
inductive CharSet where
  | all
  | allButLineFeed
  | char (negated : Bool) (rule : CaseRule) (n : Nat)
  | anyOf (negated : Bool) (rule : CaseRule) (items : List CharItem)
  deriving DecidableEq, Repr

namespace CharSet

/-- The test for a character; one without case is compared as it is. -/
def ofCode (negated : Bool) (rule : CaseRule) (n : Nat) : CharSet :=
  .char negated (if rule.meetsLetters n n then rule else .exact) n

/-- The test for items; where none needs the rule they are compared as they are. -/
def ofItems (negated : Bool) (rule : CaseRule) (items : List CharItem) : CharSet :=
  .anyOf negated (if items.any (·.folds rule) then rule else .exact) items

/-- The test for a character other than a given one. -/
def allBut (c : Char) : CharSet := .char true .exact c.toNat

/-- Membership. -/
def contains (s : CharSet) (c : Char) : Bool :=
  match s with
  | all => true
  | allButLineFeed => c != '\n'
  | char negated rule n =>
    (rule.letters (rule.lowerNumber n)).contains (rule.lower c).toNat != negated
  | anyOf negated rule items => (items.any (·.covers rule (rule.lower c))) != negated

/-- The single character that a test asks for, if case does not matter. -/
def literal? : CharSet → Option Nat
  | char false .exact n => some n
  | _ => none

/-- Whether a test that fails is found out before the characters that follow are looked at. -/
def isQuick : CharSet → Bool
  | char false .exact _ | anyOf _ .exact _ => true
  | _ => false

/-- Whether a run of characters is counted one by one, each with a place of its own. -/
def isStepwise : CharSet → Bool
  | anyOf _ rule _ => rule != .exact
  | char _ rule n => 1 < (rule.letters (rule.lowerNumber n)).length
  | _ => false

end CharSet
end Letterhead

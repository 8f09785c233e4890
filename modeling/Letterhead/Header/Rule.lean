import Letterhead.Comment.Header
import Letterhead.Template.Basic

/-
  Header rules: which header a document of a language has to begin with, and which part of a
  document is its header now. With keywords, only the part of the leading comments up to the last
  block that holds one of them is the header, so that comments of other kinds stay.
-/

namespace Letterhead

/-- What a document has to begin with. Without a header to write, headers are only removed. -/
structure HeaderRule where
  style : Comment.Style
  header : Option Text
  keywords : List Text := []
  lineBreak : Text
  deriving DecidableEq

/-- The keywords that a list of written ones gives: without blank space around them, in lower
case; blank entries give none. -/
def normalKeywords (ks : List Text) : List Text :=
  (ks.filter fun k => !Text.allBlank k).map fun k => Text.lower (Text.trim k)

/-- The number of entries up to and including the last one that satisfies a test. -/
def countThroughLast {α : Type} (test : α → Bool) : List α → Nat
  | [] => 0
  | x :: xs =>
    match countThroughLast test xs with
    | 0 => if test x then 1 else 0
    | n + 1 => n + 2

/-- The number of texts that together hold at least `n` characters; 0 when all of them hold
fewer. -/
def countCovering (n : Nat) : List Text → Nat
  | [] => 0
  | s :: ss =>
    if n ≤ s.length then 1
    else
      match countCovering (n - s.length) ss with
      | 0 => 0
      | k + 1 => k + 2

/-- Why nothing can be written: the rule only removes headers, or it has no line break to tell lines
apart. -/
inductive NoHeader where
  | removeOnly
  | noLineBreak
  deriving DecidableEq, Repr

def NoHeader.message : NoHeader → String
  | removeOnly => "no header to insert in remove-only mode"
  | noLineBreak => "empty separator"

namespace HeaderRule

/-- The rule for a template, or for removing headers when there is none. -/
def ofTemplate (style : Comment.Style) (template : Option (List Text))
    (bindings : List Template.Binding) (keywords : List Text) (lineBreak : Text) : HeaderRule where
  style
  header := template.map fun lines =>
    Text.setLineBreaks lineBreak (Template.expand bindings lines lineBreak)
  keywords := normalKeywords keywords
  lineBreak

/-- Whether a text holds one of the keywords, whatever the case of the letters. -/
def hasKeyword (r : HeaderRule) (s : Text) : Bool :=
  let lowered := Text.lower s
  r.keywords.any fun k => Text.hasPart k lowered

/-- The leading text that stays above the header: what the skip pattern covers, with the line
break that follows. -/
def above (r : HeaderRule) (s : Text) : Text :=
  match r.style.skip.bind fun k => k.pattern.cutStart? s with
  | none | some ([], _) => []
  | some (covered, rest) =>
    match LineBreak.take? rest with
    | some (b, _) => covered ++ b.text
    | none => covered

/-- Whether a text begins with the header to write, as whole lines. -/
def beginsWithHeader (r : HeaderRule) (body : Text) : Bool :=
  match r.header with
  | none | some [] => false
  | some h =>
    match Text.after? h body with
    | some [] => true
    | some (c :: _) => isBreakChar c
    | none => false

/-- The number of leading blocks that are the header when there are keywords: those up to the last
one with a keyword, and at least those that the header to write covers if it is there already. -/
def ownBlocks (r : HeaderRule) (body : Text) (blocks : List Text) : Nat :=
  max (countThroughLast r.hasKeyword blocks)
    (if r.beginsWithHeader body then countCovering (r.header.getD []).length blocks else 0)

/-- The header that a text below the skipped part has now. -/
def existing (r : HeaderRule) (body : Text) : Text :=
  if r.keywords = [] then r.style.header body
  else
    let blocks := r.style.blocks body
    (blocks.take (r.ownBlocks body blocks)).flatten

/-- Whether a header ends with a blank line. -/
def endsWithBlankLine (r : HeaderRule) (header : Text) : Bool :=
  match (Text.splitOn r.lineBreak header).reverse with
  | last :: _ :: _ => Text.allBlank last
  | _ => false

/-- What is written for a header before a text: the header as whole lines, and a blank line that
parts it from a comment below. -/
def written (r : HeaderRule) (header following : Text) : Text :=
  let s := header ++ r.lineBreak
  if !r.endsWithBlankLine header && r.style.startsWithComment following then s ++ r.lineBreak
  else s

/-- What is written for the header of the rule before a text. -/
def insertion (r : HeaderRule) (following : Text) : Except NoHeader Text :=
  match r.header with
  | some header => if r.lineBreak = [] then .error .noLineBreak else .ok (r.written header following)
  | none => .error .removeOnly

/-- Whether the header to write is a header of the language. -/
def acceptsHeader (r : HeaderRule) : Bool := r.header.all r.style.isHeader

/-- Whether no block comment at the top of a document is left open. -/
def acceptsDocument (r : HeaderRule) (s : Text) : Bool :=
  !r.style.hasUnclosedBlock (s.drop (r.above s).length)

end HeaderRule
end Letterhead

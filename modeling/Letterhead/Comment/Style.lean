import Letterhead.Pattern.Parser
import Letterhead.Pattern.Match
import Letterhead.Text.Quoted

/-
  Comment styles: how comments look in a language. A style has a line comment marker or a pair of
  block delimiters, perhaps a pair of region markers, and perhaps a pattern for leading text that
  stays above a header. No marker of a style is empty; `Style.ofMarks` checks this and the rest.
-/

namespace Letterhead.Comment

/-- The marks of a style as they are written down, before they are checked. -/
structure Marks where
  lineComment : Option Text := none
  blockStart : Option Text := none
  blockEnd : Option Text := none
  regionStart : Option Text := none
  regionEnd : Option Text := none
  skipExpression : Option Text := none
  deriving DecidableEq, Repr

/-- A pair of non-empty delimiters. -/
structure Delimiters where
  opening : Text
  closing : Text
  opening_ne : opening ≠ []
  closing_ne : closing ≠ []
  deriving DecidableEq

/-- A non-empty marker. -/
structure Marker where
  text : Text
  text_ne : text ≠ []
  deriving DecidableEq

/-- The pattern of the leading text that stays above a header, with its written form. -/
structure Skip where
  source : Text
  pattern : Pattern
  reads : (Pattern.ofText source).toOption = some pattern
  deriving DecidableEq

/-- How comments look in a language. -/
structure Style where
  line : Option Marker := none
  block : Option Delimiters := none
  region : Option Delimiters := none
  skip : Option Skip := none
  has_comment : line.isSome ∨ block.isSome
  deriving DecidableEq

/-- Why marks make no style. -/
inductive StyleError where
  | noComment
  | halfBlock
  | halfRegion
  | badSkip (source : Text) (cause : Pattern.Error)
  deriving DecidableEq, Repr

def StyleError.message : StyleError → String
  | noComment => "either line_comment or block_start must be set"
  | halfBlock => "block_start and block_end must be set together"
  | halfRegion => "region_start and region_end must be set together"
  | badSkip source cause =>
    "invalid skip_expression " ++ source.quotedString ++ ": " ++ cause.message

/-- The fault that reading a skip pattern met, if it is not about the form of the pattern. -/
def StyleError.fault? : StyleError → Option Pattern.Error
  | badSkip _ cause => if cause.isFault then some cause else none
  | _ => none

namespace Style

/-- A marker from a mark; the empty text is no mark. -/
def marker? (mark : Option Text) : Option Marker :=
  match mark with
  | some (c :: s) => some ⟨c :: s, by simp⟩
  | _ => none

/-- Delimiters from two marks that are both given or both missing. -/
def delimiters (error : StyleError) (opening closing : Option Text) :
    Except StyleError (Option Delimiters) :=
  match marker? opening, marker? closing with
  | some a, some b => .ok (some ⟨a.text, b.text, a.text_ne, b.text_ne⟩)
  | none, none => .ok none
  | _, _ => .error error

/-- The skip pattern of a mark. -/
def skip? (mark : Option Text) : Except StyleError (Option Skip) :=
  match marker? mark with
  | none => .ok none
  | some m =>
    match h : Pattern.ofText m.text with
    | .ok pattern => .ok (some ⟨m.text, pattern, by simp [h, Except.toOption]⟩)
    | .error e => .error (.badSkip m.text e)

/-- Check marks and make a style of them. The complaint about a missing comment marker comes
before those about half a pair, and the skip pattern is read last. -/
def ofMarks (m : Marks) : Except StyleError Style := do
  let line := marker? m.lineComment
  if line.isNone ∧ (marker? m.blockStart).isNone then throw .noComment
  let block ← delimiters .halfBlock m.blockStart m.blockEnd
  let region ← delimiters .halfRegion m.regionStart m.regionEnd
  let skip ← skip? m.skipExpression
  if h : line.isSome ∨ block.isSome then return { line, block, region, skip, has_comment := h }
  else throw .noComment

/-- The marks of a style. -/
def marks (s : Style) : Marks where
  lineComment := s.line.map (·.text)
  blockStart := s.block.map (·.opening)
  blockEnd := s.block.map (·.closing)
  regionStart := s.region.map (·.opening)
  regionEnd := s.region.map (·.closing)
  skipExpression := s.skip.map (·.source)

end Letterhead.Comment.Style

import Letterhead.Choice.Basic
import Letterhead.Header.Plan

/-
  Verdicts: the one word that a batch has for a file. A file is no document when it is unfit, and
  each way to be unfit is a verdict of its own.
-/

namespace Letterhead

/-- Why a file is no document that a header applies to. -/
inductive Unfit where
  | notFile
  | definitionFile
  | notText
  | unknownLanguage
  | noTemplate
  deriving DecidableEq, Repr

/-- What a batch says about a file. -/
inductive Verdict where
  | applied
  | upToDate
  | removed
  | unfit (reason : Unfit)
  deriving DecidableEq, Repr

namespace Verdict

/-- The words for a verdict. -/
def words : Verdict → String
  | applied => "header applied"
  | upToDate => "up-to-date"
  | removed => "header removed"
  | unfit .notFile => "not a regular file"
  | unfit .definitionFile => "header definition file"
  | unfit .notText => "no text representation"
  | unfit .unknownLanguage => "language not recognized"
  | unfit .noTemplate => "no applicable header template"

/-- Whether a file with this verdict is altered. -/
def isChange : Verdict → Bool
  | applied | removed => true
  | _ => false

end Verdict

instance : Choice Verdict where
  all := [.applied, .upToDate, .removed, .unfit .notFile, .unfit .definitionFile, .unfit .notText,
    .unfit .unknownLanguage, .unfit .noTemplate]
  label := Verdict.words

instance : Styled Verdict where
  style
    | .applied | .removed => .yellow
    | .upToDate => .green
    | .unfit .notText => .red
    | .unfit _ => .gray

instance : Choice Action where
  all := [.none, .insert, .replace, .remove]
  label := Action.label

instance : Styled Action where
  style
    | .none => .green
    | _ => .yellow

/-- What to do about a document whose header is not as its language wants it. -/
inductive InvalidPolicy where
  | skip
  | replace
  | ask
  deriving DecidableEq, Repr

instance : Choice InvalidPolicy where
  all := [.skip, .replace, .ask]
  label
    | .skip => "skip"
    | .replace => "replace"
    | .ask => "prompt"

instance : Styled InvalidPolicy where
  style
    | .skip => .yellow
    | .replace => .red
    | .ask => .blue

end Letterhead

import Letterhead.Comment.Header

/-
  Languages: a named comment style with the file name extensions that it applies to. The longest
  extension that a file name ends with, whatever the case of its letters, decides how well a
  language fits the file.
-/

namespace Letterhead

/-- An extension without blank space around it and with a dot in front. -/
def normalExtension (ext : Text) : Text :=
  match Text.trim ext with
  | '.' :: s => '.' :: s
  | s => '.' :: s

/-- Whether a file name ends with an extension, whatever the case of the letters. -/
def hasExtension (name ext : Text) : Bool := Text.endsWith (Text.lower ext) (Text.lower name)

/-- The extensions that a list of written ones gives; blank entries give none. -/
def normalExtensions (exts : List Text) : List Text :=
  (exts.filter fun e => !Text.allBlank e).map normalExtension

theorem normalExtension_ne (ext : Text) : normalExtension ext ≠ [] := by
  unfold normalExtension
  split <;> simp

theorem nil_notMem_normalExtensions (exts : List Text) : [] ∉ normalExtensions exts := by
  intro h
  obtain ⟨e, -, he⟩ := List.mem_map.1 h
  exact normalExtension_ne e he

/-- A named comment style with its file name extensions. -/
structure Language where
  name : Text
  extensions : List Text
  style : Comment.Style
  description : Text := []
  name_ne : name ≠ []
  extensions_ne : extensions ≠ []
  nil_notMem : [] ∉ extensions

/-- Why no language can be made. -/
inductive LanguageError where
  | style (cause : Comment.StyleError)
  | noName
  | noExtensions (name : Text)
  deriving DecidableEq, Repr

def LanguageError.message : LanguageError → String
  | style cause => cause.message
  | noName => "language name must not be empty"
  | noExtensions name => "language " ++ name.quotedString ++ " has no extensions"

/-- The fault that reading a skip pattern met. -/
def LanguageError.fault? : LanguageError → Option Pattern.Error
  | style cause => cause.fault?
  | _ => none

namespace Language

/-- Make a language from what a configuration gives. -/
def make (name : Text) (exts : List Text) (description : Text) (marks : Comment.Marks) :
    Except LanguageError Language := do
  let style ← (Comment.Style.ofMarks marks).mapError .style
  if hn : name = [] then throw .noName
  else if he : normalExtensions exts = [] then throw (.noExtensions name)
  else
    return {
      name
      extensions := normalExtensions exts
      style
      description
      name_ne := hn
      extensions_ne := he
      nil_notMem := nil_notMem_normalExtensions exts }

/-- The length of the longest extension that a file name ends with; 0 when there is none. -/
def matchLength (l : Language) (fileName : Text) : Nat :=
  ((l.extensions.filter (hasExtension fileName)).map List.length).foldl max 0

/-- Whether a file name ends with one of the extensions. -/
def fits (l : Language) (fileName : Text) : Bool := 0 < l.matchLength fileName

end Language
end Letterhead

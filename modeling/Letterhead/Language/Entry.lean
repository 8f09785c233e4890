import Letterhead.Data.Basic
import Letterhead.Language.Table
import Letterhead.Log.Basic

/-
  Languages from a configuration: each entry is a table with a name, extensions and the marks of
  comments. An entry replaces the language of its name.
-/

namespace Letterhead

/-- Why an entry gives no language. -/
inductive EntryError where
  | noName (entry : Table)
  | badExtensions (name : Text)
  | badMark (name : Text) (key : Text)
  | badLanguage (name : Text) (cause : LanguageError)
  | unwritable

def EntryError.message : EntryError → String
  | noName entry => "language entry without a valid name: " ++ (Datum.table entry).describeString
  | badExtensions name =>
    "language " ++ name.quotedString ++ ": 'extensions' must be a list of strings"
  | badMark name key =>
    "language " ++ name.quotedString ++ ": '" ++ String.ofList key ++ "' must be a string"
  | badLanguage name cause => "language " ++ name.quotedString ++ ": " ++ cause.message
  | unwritable => Whole.unwritableMessage

/-- The fault that reading a skip pattern met. -/
def EntryError.fault? : EntryError → Option Pattern.Error
  | badLanguage _ cause => cause.fault?
  | _ => none

/-- Whether the entry holds a whole number that has too many digits to be shown. -/
def EntryError.isUnwritable : EntryError → Bool
  | unwritable => true
  | _ => false

/-- Whether no rule for entries accounts for the error. -/
def EntryError.isFault (e : EntryError) : Bool := e.fault?.isSome || e.isUnwritable

namespace LanguageEntry

/-- The keys of the marks of comments. -/
def markKeys : List Text :=
  ["line_comment", "block_start", "block_end", "region_start", "region_end",
    "skip_expression"].map String.toList

/-- All keys that an entry can have. -/
def keys : List Text := ["name", "extensions", "description"].map String.toList ++ markKeys

/-- The name of an entry. -/
def name? (e : Table) : Option Text :=
  match e.value? "name".toList with
  | some (.text s) => if Text.allBlank s then none else some s
  | _ => none

/-- The extensions of an entry: a list of texts, or a text that holds them as words. -/
def extensions? (e : Table) : Option (List Text) :=
  match e.value? "extensions".toList with
  | some (.text s) => some (Text.words s)
  | some (.list ds) => ds.mapM Datum.text?
  | _ => none

/-- The first mark that is there and no text. -/
def badMark? (e : Table) : Option Text :=
  markKeys.find? fun k => (e.value? k).any fun d => d.text?.isNone

/-- The marks of comments of an entry. -/
def marks (e : Table) : Comment.Marks :=
  let mark := fun (k : String) => (e.value? k.toList).bind Datum.text?
  { lineComment := mark "line_comment"
    blockStart := mark "block_start"
    blockEnd := mark "block_end"
    regionStart := mark "region_start"
    regionEnd := mark "region_end"
    skipExpression := mark "skip_expression" }

/-- The description of an entry, in words. -/
def description (e : Table) : Except EntryError Text :=
  match e.lookup "description".toList with
  | none => .ok []
  | some d => if d.isWritable then .ok d.words else .error .unwritable

/-- The keys of an entry that say nothing, in order. -/
def unknownKeys (e : Table) : List Text :=
  ((e.map (·.1)).filter fun k => !keys.contains k).mergeSort Text.notAfter

/-- A warning about keys that say nothing. -/
def keyNotices (name : Text) (e : Table) : List Notice :=
  match unknownKeys e with
  | [] => []
  | ks =>
    [.warning ("Language " ++ String.ofList name ++ ": ignoring unknown keys " ++
      String.ofList (Text.joinWith ", ".toList ks))]

/-- The language of an entry. The warning about keys does not wait for the last check. -/
def language (e : Table) : Except EntryError Language × List Notice :=
  match name? e with
  | none => (.error (if (Datum.table e).isWritable then .noName e else .unwritable), [])
  | some name =>
    match extensions? e with
    | none => (.error (.badExtensions name), [])
    | some exts =>
      match badMark? e with
      | some key => (.error (.badMark name key), [])
      | none =>
        (do
          let description ← description e
          (Language.make (Text.trim name) exts description (marks e)).mapError (.badLanguage name),
          keyNotices name e)

end LanguageEntry

/-- Register the languages of entries, up to the first that gives none. -/
def LanguageTable.addEntries (t : LanguageTable) :
    List Table → Except EntryError LanguageTable × List Notice
  | [] => (.ok t, [])
  | e :: es =>
    match LanguageEntry.language e with
    | (.error cause, notices) => (.error cause, notices)
    | (.ok l, notices) =>
      let (result, more) := (t.register l).addEntries es
      (result, notices ++ more)

end Letterhead

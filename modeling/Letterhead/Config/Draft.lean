import Letterhead.Config.Field
import Letterhead.Text.Blank
import Letterhead.Tree.Path

/-
  Configurations in layers. A draft says what one layer sets; drafts are merged from the outermost
  layer to the innermost, and the last layer that sets a value wins, while languages add up. What a
  command line sets comes on top. Freezing a draft fills in what no layer sets.
-/

namespace Letterhead

/-- Where settings come from. -/
inductive Source where
  | file (path : Path)
  | commandLine
  deriving DecidableEq, Repr

def Source.text : Source → Text
  | file path => path.toText
  | commandLine => "<CLI overrides>".toList

/-- What one layer sets. -/
structure Draft where
  sources : List Source := []
  useKeywords : Option Bool := none
  keywords : Option (List Text) := none
  encoding : Option Text := none
  projectName : Option Text := none
  excludePatterns : List Text := []
  languages : List Table := []

/-- The settings of a run. -/
structure Config where
  sources : List Source
  useKeywords : Bool
  keywords : List Text
  encoding : Option Text
  projectName : Option Text
  excludePatterns : List Text
  languages : List Table

namespace Config

/-- The keywords that a header has to hold to count as one; none when they are not in use. -/
def effectiveKeywords (c : Config) : Option (List Text) :=
  if c.useKeywords ∧ c.keywords ≠ [] then some c.keywords else none

/-- A configuration as a table. -/
def toTable (c : Config) : Table :=
  let texts := fun (ss : List Text) => Datum.list (ss.map .text)
  let phrase := fun (s : Option Text) => Datum.text (s.getD [])
  [("keywords".toList, .table [
      ("use_required_keywords".toList, .bool c.useKeywords),
      ("required_keywords".toList, texts c.keywords)]),
    ("definitions".toList, .table [
      ("encoding".toList, phrase c.encoding),
      ("project_name".toList, phrase c.projectName)]),
    ("files".toList, .table [("exclude_patterns".toList, texts c.excludePatterns)]),
    ("languages".toList, .list (c.languages.map .table))]

end Config

/-- What a command line sets. -/
structure Overrides where
  useKeywords : Option Bool := none
  keywords : List Text := []
  projectName : Option Text := none
  encoding : Option Text := none
  excludePatterns : List Text := []

/-- A value that should be a list of items and has none. -/
structure NotIterable where
  value : Datum

def NotIterable.message (e : NotIterable) : String :=
  "'" ++ e.value.fullKind ++ "' object is not iterable"

namespace Overrides

/-- The items of a datum, in words: those of a list, the keys of a table, the characters of a
text. -/
def itemWords : Datum → Except NotIterable (List Text)
  | .list ds => .ok (ds.map Datum.words)
  | .table t => .ok (t.map (·.1))
  | .text s => .ok (s.map fun c => [c])
  | d => .error ⟨d⟩

/-- The items under a key, if its value counts as true. -/
def wordList (t : Table) (key : String) : Except NotIterable (List Text) :=
  match t.value? key.toList with
  | some d => if d.isTruthy then itemWords d else .ok []
  | none => .ok []

/-- The words under a key, if its value counts as true. -/
def word? (t : Table) (key : String) : Option Text :=
  ((t.value? key.toList).filter Datum.isTruthy).map Datum.words

/-- Read overrides from a table with values of any kind. -/
def ofTable (t : Table) : Except NotIterable Overrides := do
  let keywords ← wordList t "required_keywords"
  let excludePatterns ← wordList t "exclude_patterns"
  return {
    useKeywords := (t.value? "use_required_keywords".toList).map Datum.isTruthy
    keywords
    projectName := word? t "project_name"
    encoding := word? t "definition_encoding"
    excludePatterns }

end Overrides

namespace Draft

/-- The draft below all layers. -/
def defaults : Draft where
  useKeywords := some true
  keywords := some (["license", "copyright", "(c)"].map String.toList)
  encoding := some []
  projectName := some []

/-- Read a draft from a table. Of several faults the first counts, and a table of the wrong kind
comes before everything in the tables. -/
def ofTable (t : Table) : Except FieldError Draft := do
  let keywords ← t.table "keywords".toList
  let definitions ← t.table "definitions".toList
  let files ← t.table "files".toList
  return {
    useKeywords := ← keywords.flag? "use_required_keywords".toList
    keywords := ← keywords.texts? "required_keywords".toList
    encoding := ← definitions.phrase? "encoding".toList
    projectName := ← definitions.phrase? "project_name".toList
    excludePatterns := (← files.texts? "exclude_patterns".toList).getD []
    languages := ← t.tables "languages".toList }

/-- Lay a draft over another one. An empty list of patterns sets nothing. -/
def merge (lower upper : Draft) : Draft where
  sources := lower.sources ++ upper.sources
  useKeywords := upper.useKeywords <|> lower.useKeywords
  keywords := upper.keywords <|> lower.keywords
  encoding := upper.encoding <|> lower.encoding
  projectName := upper.projectName <|> lower.projectName
  excludePatterns :=
    if upper.excludePatterns = [] then lower.excludePatterns else upper.excludePatterns
  languages := lower.languages ++ upper.languages

/-- Set what a command line sets. Keywords replace those of the layers and are in use unless
something says otherwise; patterns are added. -/
def override (d : Draft) (o : Overrides) : Draft :=
  let useKeywords := o.useKeywords <|> d.useKeywords
  { d with
    sources := d.sources ++ [.commandLine]
    useKeywords := if o.keywords = [] then useKeywords else useKeywords <|> some true
    keywords := if o.keywords = [] then d.keywords else some o.keywords
    projectName := (o.projectName.filter (· ≠ [])) <|> d.projectName
    encoding := (o.encoding.filter (· ≠ [])) <|> d.encoding
    excludePatterns := d.excludePatterns ++ o.excludePatterns }

/-- The settings that a draft amounts to. Keywords lose the blank space around them. -/
def freeze (d : Draft) : Config where
  sources := d.sources
  useKeywords := d.useKeywords.getD true
  keywords := ((d.keywords.getD []).filter fun k => !Text.allBlank k).map Text.trim
  encoding := d.encoding.filter (· ≠ [])
  projectName := d.projectName.filter (· ≠ [])
  excludePatterns := d.excludePatterns
  languages := d.languages

end Draft
end Letterhead

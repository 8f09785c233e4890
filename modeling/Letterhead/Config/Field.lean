import Letterhead.Data.Basic

/-
  Fields of a configuration table. A field that is missing or null says nothing; one that has a
  value of the wrong kind is an error that names the key. A value is described, or taken for a text,
  only if its whole numbers are short enough to be written.
-/

namespace Letterhead

/-- A key with a value of the wrong kind, or a value that cannot be written. -/
inductive FieldError where
  | notTable (key : Text) (value : Datum)
  | notFlag (key : Text) (value : Datum)
  | notTexts (key : Text) (value : Datum)
  | notTables (key : Text)
  | unwritable

def FieldError.message : FieldError → String
  | notTable key value => "[" ++ String.ofList key ++ "] must be a table, got " ++ value.kind
  | notFlag key value =>
    "'" ++ String.ofList key ++ "' must be a boolean, got " ++ value.describeString
  | notTexts key value =>
    "'" ++ String.ofList key ++ "' must be a list of strings, got " ++ value.describeString
  | notTables key => "[[" ++ String.ofList key ++ "]] must be an array of tables"
  | unwritable => Whole.unwritableMessage

/-- Whether the value is at fault and not its kind. -/
def FieldError.isFault : FieldError → Bool
  | unwritable => true
  | _ => false

/-- An error that shows a value. -/
def FieldError.showing (value : Datum) (e : FieldError) : FieldError :=
  if value.isWritable then e else unwritable

namespace Table

/-- The table under a key; empty when there is none. -/
def table (t : Table) (key : Text) : Except FieldError Table :=
  match t.value? key with
  | none => .ok []
  | some (.table sub) => .ok sub
  | some d => .error (.notTable key d)

/-- The truth value under a key. -/
def flag? (t : Table) (key : Text) : Except FieldError (Option Bool) :=
  match t.value? key with
  | none => .ok none
  | some (.bool b) => .ok (some b)
  | some d => .error (.showing d (.notFlag key d))

/-- The texts under a key. -/
def texts? (t : Table) (key : Text) : Except FieldError (Option (List Text)) :=
  match t.value? key with
  | none => .ok none
  | some (.list ds) =>
    match ds.mapM Datum.text? with
    | some ss => .ok (some ss)
    | none => .error (.showing (.list ds) (.notTexts key (.list ds)))
  | some d => .error (.showing d (.notTexts key d))

/-- The tables under a key; none when the key is missing. -/
def tables (t : Table) (key : Text) : Except FieldError (List Table) :=
  match t.value? key with
  | none => .ok []
  | some (.list ds) =>
    match ds.mapM Datum.table? with
    | some ts => .ok ts
    | none => .error (.notTables key)
  | some _ => .error (.notTables key)

/-- The text under a key. A number or a truth value counts as its description, all else says
nothing. -/
def phrase? (t : Table) (key : Text) : Except FieldError (Option Text) :=
  match t.value? key with
  | some (.text s) => .ok (some s)
  | some (.int n) =>
    if Whole.isWritable n then .ok (some (Datum.int n).describe) else .error .unwritable
  | some (.float x) => .ok (some (Datum.float x).describe)
  | some (.bool b) => .ok (some (Datum.bool b).describe)
  | _ => .ok none

end Table
end Letterhead

import Letterhead.Header.Rule

/-
  Plans: the edit that makes a document satisfy a header rule. A plan names the text it deletes
  and the text it inserts, with the texts around them, so that the document before and after is
  read off it.
-/

namespace Letterhead

/-- What a plan does. -/
inductive Action where
  | none
  | insert
  | replace
  | remove
  deriving DecidableEq, Repr

/-- The words for an action. -/
def Action.label : Action → String
  | none => "no action"
  | insert => "insert"
  | replace => "replace"
  | remove => "remove"

/-- An edit of a document: below the text `above`, `deleted` gives way to `inserted`. -/
structure Plan where
  action : Action
  above : Text
  deleted : Text
  inserted : Text
  below : Text
  deriving DecidableEq, Repr

namespace Plan

/-- The document that the plan was made for. -/
def source (p : Plan) : Text := p.above ++ p.deleted ++ p.below

/-- The document after the plan. -/
def result (p : Plan) : Text := p.above ++ p.inserted ++ p.below

/-- Whether the plan edits the document. -/
def changes (p : Plan) : Bool := p.action != .none

/-- The offsets of the deleted text. -/
def deletedRange (p : Plan) : Nat × Nat := (p.above.length, p.above.length + p.deleted.length)

end Plan

namespace HeaderRule

/-- The edit that a document needs. -/
def plan (r : HeaderRule) (s : Text) : Plan :=
  let above := r.above s
  let body := s.drop above.length
  let existing := r.existing body
  let below := body.drop existing.length
  let unchanged : Plan := ⟨.none, above, [], [], body⟩
  match r.header with
  | none => if existing = [] then unchanged else ⟨.remove, above, existing, [], below⟩
  | some header =>
    let new := r.written header below
    if existing = new then unchanged
    else
      let parted := if above = [] || Text.endsLine above then new else r.lineBreak ++ new
      ⟨if existing = [] then .insert else .replace, above, existing, parted, below⟩

/-- The edit that a document needs, if the rule has what it takes to write its header. -/
def planned (r : HeaderRule) (s : Text) : Except NoHeader Plan :=
  if r.header.isSome && r.lineBreak = [] then .error .noLineBreak else .ok (r.plan s)

end HeaderRule
end Letterhead

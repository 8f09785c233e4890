import Letterhead.Batch.Walk

/-
  The inputs of a batch: files and directories, one after the other. Templates come from the
  nearest definition file, or from one that is given for all inputs, or there are none and headers
  are removed.
-/

namespace Letterhead

open Letterhead.Tree

/-- Where templates come from. -/
inductive Templates where
  | none
  | given (defs : DefinitionSet)
  | nearest

/-- The definitions that decide about an input from above. A directory looks for its own definition
file when it is entered. A definition file that cannot be used is as good as an empty one. -/
def inheritedDefinitions (j : Job) (d : Disk) (p : Path) :
    Except BatchFault DefinitionSet × List Remark :=
  match scopeChain d p (j.root.map Path.ofNames) with
  | .error cause => (.error (.noPlace cause), [])
  | .ok chain =>
    let scopes := if d.isDir p then chain.drop 1 else chain
    match nearestDefinitions d j.config.encoding scopes j.host with
    | (.ok found, notices) => (.ok (found.getD {}), notices.map .notice)
    | (.error e, notices) =>
      if e.isFault then (.error (.definitions e), notices.map .notice)
      else
        (.ok {}, notices.map .notice ++ [.warning ("Ignoring definition file: " ++ e.message)])

namespace Batch

/-- Process one input with the definitions for it; `searching` tells whether more are looked for on
the way. -/
def processWith (j : Job) (searching : Bool) (defs : Option DefinitionSet) (b : Batch) (p : Path) :
    Batch :=
  if b.disk.isDir p then b.processDirectory j searching defs p else b.processFile j defs p

/-- Process one input. -/
def processInput (j : Job) (t : Templates) (b : Batch) (p : Path) : Batch :=
  match j.excludes b.disk p, t with
  | .error cause, _ => b.fail (.noPlace cause)
  | .ok true, _ => b.note [.info ("Excluded: " ++ p.toString)]
  | .ok false, .none => b.processWith j false none p
  | .ok false, .given defs => b.processWith j false (some defs) p
  | .ok false, .nearest =>
    match inheritedDefinitions j b.disk p with
    | (.ok defs, remarks) => (b.say remarks).processWith j true (some defs) p
    | (.error cause, remarks) => (b.say remarks).fail cause

/-- Process inputs, until the batch is to stop. -/
def processInputs (j : Job) (t : Templates) (b : Batch) : List Path → Batch
  | [] => b
  | p :: ps =>
    if b.isBroken || b.isCancelled j then b else processInputs j t (b.processInput j t p) ps

end Batch
end Letterhead

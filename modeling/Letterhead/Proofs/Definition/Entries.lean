import Letterhead.Definition.Basic
import Letterhead.Proofs.Data.Assignment

/-
  The entries of a definition set. Reading a definition file assigns the lines of each section to
  the extensions that it names, so the set has an extension once, in the order in which the sections
  first name them (`extensions_ofText`), and the template of an extension is that of the last
  section that names it (`template?_ofText`).
-/

namespace Letterhead

namespace DefinitionSet

/-- The extensions that have a template, in order. -/
def extensions (s : DefinitionSet) : List Text := s.entries.map (·.extension)

/-- The template of an extension. -/
def template? (s : DefinitionSet) (ext : Text) : Option (List Text) :=
  (s.entries.find? fun d => d.extension == ext).map (·.lines)

theorem assigns_setEntry : Assigns Definition.extension setEntry :=
  ⟨fun _ => rfl, fun _ _ _ => rfl⟩

end DefinitionSet

namespace DefinitionSection

/-- What sections define, one definition for each extension that a section names; the first
section has the given number. -/
def definitions (number : Nat) : List DefinitionSection → List Definition
  | [] => []
  | s :: ss => s.extensions.map (fun ext => ⟨ext, s.lines, number⟩) ++ definitions (number + 1) ss

theorem registerAll_eq (number : Nat) (entries : List Definition) (ss : List DefinitionSection) :
    registerAll number entries ss =
      (definitions number ss).foldl (fun es d => DefinitionSet.setEntry d es) entries := by
  induction ss generalizing number entries with
  | nil => rfl
  | cons s ss ih => rw [registerAll, ih, register, definitions, List.foldl_append, List.foldl_map]

theorem extensions_definitions (number : Nat) (ss : List DefinitionSection) :
    (definitions number ss).map (·.extension) = ss.flatMap (·.extensions) := by
  induction ss generalizing number with
  | nil => rfl
  | cons s ss ih =>
    have hself : (fun ext => (⟨ext, s.lines, number⟩ : Definition).extension) = id := rfl
    rw [definitions, List.map_append, ih, List.map_map, List.flatMap_cons]
    exact congrArg (· ++ _) ((congrArg (List.map · _) hself).trans (List.map_id _))

theorem getLast?_definitions_single (number : Nat) (exts lines : List Text) (ext : Text) :
    ((exts.map fun e => (⟨e, lines, number⟩ : Definition)).filter
      fun d => d.extension == ext).getLast?.map (·.lines) =
        if ext ∈ exts then some lines else none := by
  rw [List.filter_map, List.getLast?_map, Option.map_map]
  by_cases hmem : ext ∈ exts
  · have hne : exts.filter (fun e => e == ext) ≠ [] :=
      List.ne_nil_of_mem (List.mem_filter.2 ⟨hmem, beq_self_eq_true ext⟩)
    rw [if_pos hmem]
    exact congrArg (Option.map _) (List.getLast?_eq_some_getLast hne)
  · have hnil : exts.filter (fun e => e == ext) = [] := by
      refine List.filter_eq_nil_iff.2 fun e he heq => hmem ?_
      rwa [← beq_iff_eq.1 heq]
    rw [if_neg hmem]
    exact congrArg (Option.map _) (congrArg List.getLast? hnil)

/-- The last definition of an extension is that of the last section that names it. -/
theorem getLast?_definitions (number : Nat) (ss : List DefinitionSection) (ext : Text) :
    ((definitions number ss).filter fun d => d.extension == ext).getLast?.map (·.lines) =
      (ss.filter fun s => ext ∈ s.extensions).getLast?.map (·.lines) := by
  induction ss generalizing number with
  | nil => rfl
  | cons s ss ih =>
    rw [definitions, List.filter_append, List.getLast?_append, Option.map_or, ih,
      getLast?_definitions_single]
    by_cases hmem : ext ∈ s.extensions
    · rw [if_pos hmem, List.filter_cons_of_pos (by simpa using hmem), List.getLast?_cons]
      cases (ss.filter fun s => ext ∈ s.extensions).getLast? <;> rfl
    · rw [if_neg hmem, List.filter_cons_of_neg (by simpa using hmem), Option.or_none]

end DefinitionSection

namespace DefinitionSet

variable (s : Text) (source : Option Path)

theorem entries_ofText :
    (ofText s source).entries =
      (DefinitionSection.definitions 0 (DefinitionSection.ofLines
        (Text.lines (Text.dropMark s))).2).foldl (fun es d => setEntry d es) [] :=
  DefinitionSection.registerAll_eq 0 [] _

theorem extensions_ofText :
    (ofText s source).extensions =
      ((DefinitionSection.ofLines (Text.lines (Text.dropMark s))).2.flatMap
        (·.extensions)).eraseDups := by
  rw [extensions, entries_ofText, assigns_setEntry.keys_run,
    DefinitionSection.extensions_definitions]

theorem template?_ofText (ext : Text) :
    (ofText s source).template? ext =
      ((DefinitionSection.ofLines (Text.lines (Text.dropMark s))).2.filter
        fun s => ext ∈ s.extensions).getLast?.map (·.lines) := by
  rw [template?, entries_ofText, assigns_setEntry.find?_run,
    DefinitionSection.getLast?_definitions]

end DefinitionSet
end Letterhead

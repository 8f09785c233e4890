import Letterhead.Text.Basic

/-
  Code points: the characters, and the halves of surrogate pairs, which are no characters where they
  stand alone. An editor can be handed such halves, but UTF-8 has no bytes for them. A text is made
  of characters; `CodePoint.ofText` embeds the texts into the lists of code points.
-/

namespace Letterhead

/-- A code point: a character, or a surrogate by its distance from U+D800. -/
inductive CodePoint where
  | char (c : Char)
  | surrogate (n : Fin 0x800)
  deriving DecidableEq, Repr

namespace CodePoint

def isChar : CodePoint → Bool
  | char _ => true
  | surrogate _ => false

/-- The code points of a text. -/
def ofText (s : Text) : List CodePoint := s.map char

theorem surrogate_notMem_ofText (s : Text) (n : Fin 0x800) : surrogate n ∉ ofText s := by
  intro h
  obtain ⟨c, -, hc⟩ := List.mem_map.1 h
  cases hc

/-- The text of code points, if all of them are characters. -/
def text? : List CodePoint → Option Text
  | [] => some []
  | char c :: ps => (text? ps).map (c :: ·)
  | surrogate _ :: _ => none

@[simp] theorem text?_ofText (s : Text) : text? (ofText s) = some s := by
  induction s with
  | nil => rfl
  | cons c s ih => exact congrArg (Option.map (c :: ·)) ih

theorem eq_of_text? {ps : List CodePoint} {s : Text} (h : text? ps = some s) : ps = ofText s := by
  induction ps generalizing s with
  | nil =>
    cases h
    rfl
  | cons p ps ih =>
    cases p with
    | char c =>
      obtain ⟨t, ht, rfl⟩ := Option.map_eq_some_iff.1 h
      rw [ih ht]
      rfl
    | surrogate n => cases h

/-- Nothing but surrogates keeps code points from being a text. -/
theorem text?_eq_none_iff {ps : List CodePoint} :
    text? ps = none ↔ ∃ n, surrogate n ∈ ps := by
  induction ps with
  | nil => simp [text?]
  | cons p ps ih =>
    cases p with
    | char c => simpa [text?] using ih
    | surrogate n => exact iff_of_true rfl ⟨n, List.mem_cons_self⟩

theorem exists_eq_ofText {ps : List CodePoint} (h : ∀ n, surrogate n ∉ ps) :
    ∃ s, ps = ofText s := by
  cases hs : text? ps with
  | none =>
    obtain ⟨n, hn⟩ := text?_eq_none_iff.1 hs
    exact absurd hn (h n)
  | some s => exact ⟨s, eq_of_text? hs⟩

theorem ofText_injective {s t : Text} (h : ofText s = ofText t) : s = t := by
  have hsome := congrArg text? h
  rwa [text?_ofText, text?_ofText, Option.some_inj] at hsome

end CodePoint
end Letterhead

import Letterhead.Text.Blank
import Mathlib.Data.List.DropRight

/-
  Trimmed texts. To trim a text is to drop the blank characters on the left and then those on the
  right (`trimEnd_eq`), which leaves nothing more to drop (`trim_trim`) and leaves nothing at all
  of a blank text only (`trim_eq_nil_iff`). So the entries of a list that are left when blank ones
  are dropped and the others are trimmed stay as they are (`trimmedEntries_eq_self_iff`).
-/

namespace Letterhead.Text

variable {s : Text} {ss : List Text}

/-! ## Texts -/

theorem trimEnd_concat (s : Text) (c : Char) :
    trimEnd (s ++ [c]) = if isBlank c then trimEnd s else s ++ [c] := by
  induction s with
  | nil => rfl
  | cons d s ih =>
    rw [List.cons_append, trimEnd, ih]
    by_cases hc : isBlank c = true
    · rw [if_pos hc, if_pos hc, trimEnd]
    · rw [if_neg hc, if_neg hc]
      cases s <;> rfl

theorem trimEnd_eq (s : Text) : trimEnd s = s.rdropWhile isBlank := by
  induction s using List.reverseRecOn with
  | nil => rfl
  | append_singleton s c ih => rw [trimEnd_concat, List.rdropWhile_concat, ih]

theorem trim_eq (s : Text) : trim s = (s.dropWhile isBlank).rdropWhile isBlank :=
  trimEnd_eq _

/-- Nothing blank comes first in what is left when blank characters are dropped, on either side. -/
theorem trimStart_trim (s : Text) : trimStart (trim s) = trim s := by
  rw [trimStart, List.dropWhile_eq_self_iff]
  intro hpos
  have hprefix : trim s <+: s.dropWhile isBlank := trim_eq s ▸ List.rdropWhile_prefix _ _
  rw [List.IsPrefix.getElem hprefix hpos]
  exact List.dropWhile_get_zero_not isBlank s (hpos.trans_le hprefix.length_le)

theorem trim_trim (s : Text) : trim (trim s) = trim s := by
  have hstart := trimStart_trim s
  rw [trimStart] at hstart
  rw [trim_eq (trim s), hstart, trim_eq s, List.rdropWhile_idempotent]

theorem trim_eq_nil_iff : trim s = [] ↔ allBlank s = true := by
  rw [trim_eq, List.rdropWhile_eq_nil_iff, allBlank, List.all_eq_true]
  constructor
  · intro h c hc
    rw [← List.takeWhile_append_dropWhile (p := isBlank) (l := s), List.mem_append] at hc
    exact hc.elim List.mem_takeWhile_imp (h c)
  · exact fun h c hc => h c ((List.dropWhile_suffix isBlank).mem hc)

/-! ## Lists of texts -/

/-- The entries of a list without blank space around them; blank entries give none. -/
def trimmedEntries (ss : List Text) : List Text := (ss.filter fun s => !allBlank s).map trim

theorem of_mem_trimmedEntries (h : s ∈ trimmedEntries ss) : trim s = s ∧ s ≠ [] := by
  obtain ⟨s', hs', rfl⟩ := List.mem_map.1 h
  refine ⟨trim_trim s', fun hnil => ?_⟩
  rw [trim_eq_nil_iff] at hnil
  simp [hnil] at hs'

theorem trimmedEntries_eq_self_iff :
    trimmedEntries ss = ss ↔ ∀ s ∈ ss, trim s = s ∧ s ≠ [] := by
  constructor
  · intro h s hs
    rw [← h] at hs
    exact of_mem_trimmedEntries hs
  · intro h
    have hkept : ss.filter (fun s => !allBlank s) = ss := by
      refine List.filter_eq_self.2 fun s hs => ?_
      obtain ⟨htrim, hne⟩ := h s hs
      rw [← htrim, ne_eq, trim_eq_nil_iff] at hne
      simpa using hne
    rw [trimmedEntries, hkept]
    exact (List.map_congr_left fun s hs => (h s hs).1).trans (List.map_id ss)

end Letterhead.Text

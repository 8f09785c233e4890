import Letterhead.Diff.Preview
import Letterhead.Proofs.Ansi.Paint
import Letterhead.Proofs.Diff.Patch
import Mathlib.Data.List.Basic

/-
  Whether a preview shows what the lines of a patch tell. Each line of a patch is one line of the
  preview, with its breaks written out, in a style that the preview takes from how the line begins.
  That is the style of what the line is (`PatchLine.style`), but for removed rows that begin with
  two minus signs and added rows that begin with two plus signs, which look like labels behind their
  marks (`lineStyle_text`). So a preview shows removed and added rows as such exactly when there are
  no such rows among them, whatever painter puts the lines into their styles (`preview_tells_iff`).
-/

namespace Letterhead.Diff

open Ansi

/-! ## Styles of lines -/

/-- The style of labels. -/
def labelStyle : Style := Style.bold ++ Style.white

namespace PatchLine

/-- The style that tells what a line is. -/
def style : PatchLine → Style
  | oldLabel _ | newLabel _ => labelStyle
  | ranges .. => Style.cyan
  | kept _ => Style.gray
  | removed _ => Style.bold ++ Style.red
  | added _ => Style.bold ++ Style.green

/-- A row that begins as a label does when its mark stands before it. -/
def SeemsLabel : PatchLine → Prop
  | removed row => "--".toList <+: row
  | added row => "++".toList <+: row
  | _ => False

instance : DecidablePred SeemsLabel
  | removed row => inferInstanceAs (Decidable ("--".toList <+: row))
  | added row => inferInstanceAs (Decidable ("++".toList <+: row))
  | oldLabel _ | newLabel _ | ranges .. | kept _ => inferInstanceAs (Decidable False)

/-- The style that a line of a preview has. -/
def previewStyle (l : PatchLine) : Style := if l.SeemsLabel then labelStyle else l.style

/-- A line in a style, with its breaks written out. -/
def shown (l : PatchLine) (painter : Painter) (st : Style) : Text :=
  painter st (visibleBreaks l.text)

end PatchLine

/-- The style that the mark of a line gives. -/
def markStyle (line : Text) : Style :=
  match line with
  | '-' :: _ => Style.bold ++ Style.red
  | '+' :: _ => Style.bold ++ Style.green
  | '@' :: _ => Style.cyan
  | _ => Style.gray

/-- The mark gives the style of every line that does not begin as a label. -/
theorem lineStyle_eq (line : Text) : lineStyle line =
    if "---".toList <+: line ∨ "+++".toList <+: line then labelStyle else markStyle line := by
  unfold lineStyle
  simp only [Bool.or_eq_true, Text.beginsWith_iff]
  rfl

theorem exists_text_ranges (old new : String) :
    ∃ rest, (PatchLine.ranges old new).text = '@' :: rest :=
  ⟨_, by simp [PatchLine.text]; rfl⟩

/-- The lines of a patch that begin as labels. -/
theorem begins_label_iff (l : PatchLine) :
    "---".toList <+: l.text ∨ "+++".toList <+: l.text ↔ l.isLabel = true ∨ l.SeemsLabel := by
  cases l with
  | oldLabel path =>
    have hbegins : "---".toList <+: (PatchLine.oldLabel path).text := by
      rw [PatchLine.text, List.append_assoc]
      exact (by decide : "---".toList <+: "--- ".toList).trans (List.prefix_append _ _)
    exact iff_of_true (Or.inl hbegins) (Or.inl rfl)
  | newLabel path =>
    have hbegins : "+++".toList <+: (PatchLine.newLabel path).text := by
      rw [PatchLine.text, List.append_assoc]
      exact (by decide : "+++".toList <+: "+++ ".toList).trans (List.prefix_append _ _)
    exact iff_of_true (Or.inr hbegins) (Or.inl rfl)
  | ranges old new =>
    obtain ⟨rest, hrest⟩ := exists_text_ranges old new
    simp [hrest, PatchLine.isLabel, PatchLine.SeemsLabel]
  | kept row => simp [PatchLine.text, PatchLine.isLabel, PatchLine.SeemsLabel]
  | removed row => simp [PatchLine.text, PatchLine.isLabel, PatchLine.SeemsLabel]
  | added row => simp [PatchLine.text, PatchLine.isLabel, PatchLine.SeemsLabel]

theorem style_of_isLabel {l : PatchLine} (h : l.isLabel = true) : l.style = labelStyle := by
  cases l with
  | oldLabel path => rfl
  | newLabel path => rfl
  | _ => cases h

theorem markStyle_text {l : PatchLine} (h : l.isLabel = false) : markStyle l.text = l.style := by
  cases l with
  | oldLabel path => cases h
  | newLabel path => cases h
  | ranges old new =>
    obtain ⟨rest, hrest⟩ := exists_text_ranges old new
    rw [hrest]
    rfl
  | _ => rfl

/-- The style of a line in the preview, from what the line is. -/
theorem lineStyle_text (l : PatchLine) : lineStyle l.text = l.previewStyle := by
  rw [lineStyle_eq, if_congr (begins_label_iff l) rfl rfl]
  unfold PatchLine.previewStyle
  by_cases hseems : l.SeemsLabel
  · rw [if_pos hseems, if_pos (Or.inr hseems)]
  · cases hlabel : l.isLabel with
    | true => rw [if_neg hseems, if_pos (Or.inl rfl), style_of_isLabel hlabel]
    | false =>
      have hnone : ¬ (false = true ∨ l.SeemsLabel) := by simp [hseems]
      rw [if_neg hseems, if_neg hnone, markStyle_text hlabel]

/-! ## Lines of a preview -/

/-- A line break is written with other characters. -/
theorem mem_visibleBreaks {s : Text} {c : Char} (h : c ∈ visibleBreaks s) :
    c ∈ s ∧ c ≠ '\n' ∨ c ∈ ['\\', 'r', 'n'] := by
  obtain ⟨d, hd, h⟩ := List.mem_flatMap.1 h
  split at h
  next =>
    have hsub : ['\\', 'r'] ⊆ ['\\', 'r', 'n'] := by simp
    exact Or.inr (hsub h)
  next =>
    split at h
    next =>
      have hsub : ['\\', 'n'] ⊆ ['\\', 'r', 'n'] := by simp
      exact Or.inr (hsub h)
    next hlf =>
      obtain rfl := List.mem_singleton.1 h
      exact Or.inl ⟨hd, hlf⟩

theorem lf_notMem_visibleBreaks (s : Text) : '\n' ∉ visibleBreaks s := by
  intro h
  rcases mem_visibleBreaks h with ⟨-, hne⟩ | hmem
  · exact hne rfl
  · revert hmem
    decide

theorem escape_notMem_visibleBreaks {s : Text} (hs : '\x1b' ∉ s) : '\x1b' ∉ visibleBreaks s := by
  intro h
  rcases mem_visibleBreaks h with ⟨hmem, -⟩ | hmem
  · exact hs hmem
  · revert hmem
    decide

theorem visibleBreaks_ne_nil {s : Text} (hs : s ≠ []) : visibleBreaks s ≠ [] := by
  cases s with
  | nil => exact absurd rfl hs
  | cons c s =>
    intro h
    have hc := (List.append_eq_nil_iff.1 h).1
    dsimp only at hc
    split_ifs at hc

/-- Every line has a mark or a label, so there is something to paint. -/
theorem PatchLine.text_ne_nil (l : PatchLine) : l.text ≠ [] := by
  cases l with
  | ranges old new =>
    obtain ⟨rest, hrest⟩ := exists_text_ranges old new
    simp [hrest]
  | _ => simp [PatchLine.text]

section Painting

variable {painter : Painter} (hpainter : painter.Sound)

namespace PatchLine

variable {l : PatchLine}

include hpainter

theorem lf_notMem_shown (l : PatchLine) (st : Style) : '\n' ∉ l.shown painter st :=
  hpainter.lf_notMem _ _ (lf_notMem_visibleBreaks l.text)

/-- A line without sequences of its own is its text between those of the style. -/
theorem shown_of_plain (h : '\x1b' ∉ l.text) (st : Style) :
    l.shown painter st = st.opening ++ visibleBreaks l.text ++ st.closing :=
  hpainter.plain _ _ (visibleBreaks_ne_nil l.text_ne_nil) (lf_notMem_visibleBreaks l.text)
    (escape_notMem_visibleBreaks h)

/-- A row that looks like a label can be told from one in the style that it should have. -/
theorem shown_style_iff (l : PatchLine) :
    l.shown painter l.previewStyle = l.shown painter l.style ↔ ¬ l.SeemsLabel := by
  have hsome := visibleBreaks_ne_nil l.text_ne_nil
  unfold previewStyle
  constructor
  · intro h hseems
    rw [if_pos hseems] at h
    cases l with
    | removed row =>
      have hopening : labelStyle.opening ≠ (Style.bold ++ Style.red).opening := by decide
      exact hopening (hpainter.opening_eq hsome hsome h rfl)
    | added row =>
      have hopening : labelStyle.opening ≠ (Style.bold ++ Style.green).opening := by decide
      exact hopening (hpainter.opening_eq hsome hsome h rfl)
    | _ => exact hseems
  · intro h
    rw [if_neg h]

end PatchLine

/-- The preview of lines, each in a given style. -/
def previewIn (painter : Painter) (style : PatchLine → Style) (ls : List PatchLine) : Text :=
  ls.flatMap fun l => l.shown painter (style l) ++ ['\n']

include hpainter in
theorem splitOn_previewIn (style : PatchLine → Style) (ls : List PatchLine) :
    Text.splitOn ['\n'] (previewIn painter style ls) =
      ls.map (fun l => l.shown painter (style l)) ++ [[]] := by
  have hlines : ∀ line ∈ ls.map fun l => l.shown painter (style l), '\n' ∉ line := by
    intro line hline
    obtain ⟨l, -, rfl⟩ := List.mem_map.1 hline
    exact l.lf_notMem_shown hpainter (style l)
  rw [← Text.splitOn_ended hlines, List.flatMap_map]
  rfl

include hpainter in
theorem previewIn_eq_iff {style style' : PatchLine → Style} {ls : List PatchLine} :
    previewIn painter style ls = previewIn painter style' ls ↔
      ∀ l ∈ ls, l.shown painter (style l) = l.shown painter (style' l) := by
  constructor
  · intro h
    have hsplit := congrArg (Text.splitOn ['\n']) h
    rw [splitOn_previewIn hpainter, splitOn_previewIn hpainter,
      List.append_cancel_right_eq] at hsplit
    exact List.map_inj_left.1 hsplit
  · intro h
    unfold previewIn
    exact List.flatMap_congr fun l hl => by rw [h l hl]

/-- A preview without numbers. -/
theorem preview_eq_flatMap (painter : Painter) (patch : List Text) :
    preview patch false painter =
      patch.flatMap fun line => previewLine line painter ++ ['\n'] := by
  unfold preview
  generalize 1 = n
  induction patch generalizing n with
  | nil => rfl
  | cons line patch ih =>
    rw [List.zipIdx_cons, List.flatMap_cons, List.flatMap_cons, ih]
    rfl

theorem preview_map_text (painter : Painter) (ls : List PatchLine) :
    preview (ls.map PatchLine.text) false painter =
      previewIn painter PatchLine.previewStyle ls := by
  rw [preview_eq_flatMap, List.flatMap_map]
  unfold previewIn
  refine List.flatMap_congr fun l _ => ?_
  rw [previewLine, lineStyle_text]
  rfl

/-! ## Previews of patches -/

variable {old new path : Text}

/-- Rows that look like labels come from a text that has such rows. -/
theorem not_seemsLabel_of_rows (hold : ∀ row ∈ Text.rows old, ¬ "--".toList <+: row)
    (hnew : ∀ row ∈ Text.rows new, ¬ "++".toList <+: row) :
    ∀ l ∈ patchLines old new path, ¬ l.SeemsLabel := by
  intro l hl
  cases l with
  | removed row => exact hold row (mem_rows_of_removed hl)
  | added row => exact hnew row (mem_rows_of_added hl)
  | _ => exact not_false

theorem preview_unified (painter : Painter) (old new path : Text) :
    preview (unified old new path) false painter =
      previewIn painter PatchLine.previewStyle (patchLines old new path) := by
  rw [unified_eq_map_text, preview_map_text]

include hpainter in
/-- A preview has one line for each line of the patch, and shows it in the style of what it is, but
for the rows that look like labels, which are shown as labels. So all of the preview tells what the
lines of the patch are exactly when no row looks like a label, as when no row of the old text begins
with two minus signs and no row of the new text with two plus signs. -/
theorem preview_tells_iff (old new path : Text) :
    let ls := patchLines old new path
    let shown := preview (unified old new path) false painter
    unified old new path = ls.map PatchLine.text ∧
      (ls = [] ∨ ∃ body, ls = .oldLabel path :: .newLabel path :: body ∧
        ∀ l ∈ body, l.isLabel = false) ∧
      Text.splitOn ['\n'] shown = ls.map (fun l => l.shown painter l.previewStyle) ++ [[]] ∧
      (∀ l ∈ ls, l.shown painter l.previewStyle = l.shown painter l.style ↔ ¬ l.SeemsLabel) ∧
      (shown = previewIn painter PatchLine.style ls ↔ ∀ l ∈ ls, ¬ l.SeemsLabel) ∧
      ((∀ row ∈ Text.rows old, ¬ "--".toList <+: row) →
        (∀ row ∈ Text.rows new, ¬ "++".toList <+: row) →
        shown = previewIn painter PatchLine.style ls) ∧
      ∀ l ∈ ls, '\x1b' ∉ l.text →
        ∀ st : Style, l.shown painter st = st.opening ++ visibleBreaks l.text ++ st.closing := by
  intro ls shown
  have hshown : shown = previewIn painter PatchLine.previewStyle ls :=
    preview_unified painter old new path
  have htells : shown = previewIn painter PatchLine.style ls ↔ ∀ l ∈ ls, ¬ l.SeemsLabel := by
    rw [hshown, previewIn_eq_iff hpainter]
    exact forall₂_congr fun l _ => l.shown_style_iff hpainter
  refine ⟨unified_eq_map_text old new path, patchLines_cases old new path, ?_,
    fun l _ => l.shown_style_iff hpainter, htells, ?_,
    fun l _ hplain st => PatchLine.shown_of_plain hpainter hplain st⟩
  · rw [hshown, splitOn_previewIn hpainter]
  · intro hold hnew
    exact htells.2 (not_seemsLabel_of_rows hold hnew)

end Painting

/-- A class with another base has no rows that look like labels. -/
theorem preview_tells_base_class :
    let old := "class A {}\n".toList
    let new := "class A : B {}\n".toList
    let path := "a.cs".toList
    (∀ row ∈ Text.rows old, ¬ "--".toList <+: row) ∧
      (∀ row ∈ Text.rows new, ¬ "++".toList <+: row) ∧
      preview (unified old new path) false =
        previewIn paint PatchLine.style (patchLines old new path) := by
  intro old new path
  have hold : ∀ row ∈ Text.rows old, ¬ "--".toList <+: row := by decide +kernel
  have hnew : ∀ row ∈ Text.rows new, ¬ "++".toList <+: row := by decide +kernel
  obtain ⟨-, -, -, -, -, htells, -⟩ := preview_tells_iff Painter.sound_paint old new path
  exact ⟨hold, hnew, htells hold hnew⟩

/-- A comment of SQL that is taken away is shown as a label. -/
theorem sql_comment_shown_as_label :
    let old := "-- License: X\nSELECT 1;\n".toList
    let new := "-- License: MIT\nSELECT 1;\n".toList
    let path := "a.sql".toList
    let row := PatchLine.removed "-- License: X\n".toList
    patchLines old new path = [.oldLabel path, .newLabel path, .ranges "1,2" "1,2", row,
        .added "-- License: MIT\n".toList, .kept "SELECT 1;\n".toList] ∧
      row.style = Style.bold ++ Style.red ∧ row.previewStyle = Style.bold ++ Style.white ∧
      preview (unified old new path) false ≠
        previewIn paint PatchLine.style (patchLines old new path) := by
  decide +kernel

end Letterhead.Diff

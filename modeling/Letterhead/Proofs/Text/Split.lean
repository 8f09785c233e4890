import Letterhead.Proofs.Text.BreakCount

/-
  Texts that are put together from lines and from words. Lines that all end with one line break are
  read back as they were written, the empty ones included (`lines_terminated`), and words with
  blank space in between are read back whatever the space is (`words_append`).
-/

namespace Letterhead.Text

variable {lb : LineBreak} {u w g s : Text} {ls : List Text}

/-! ## Lines -/

/-- Lines one after the other, each with a line break behind it. -/
def terminated (lb : LineBreak) (ls : List Text) : Text := ls.flatMap fun l => l ++ lb.text

theorem pieces_unbroken_append (hu : Unbroken u) (s : Text) :
    pieces (u ++ s) = u.map Piece.char ++ pieces s := by
  induction u with
  | nil => rfl
  | cons c u ih =>
    rw [unbroken_cons] at hu
    rw [List.cons_append, pieces_cons hu.1, ih hu.2]
    rfl

theorem head?_terminated (hls : ∀ l ∈ ls, Unbroken l) :
    lb ≠ .cr ∨ (terminated lb ls).head? ≠ some '\n' := by
  refine or_iff_not_imp_left.2 fun hcr => ?_
  rw [not_not] at hcr
  subst hcr
  cases ls with
  | nil => simp [terminated]
  | cons l ls =>
    cases l with
    | nil => simp [terminated, LineBreak.text]
    | cons c l =>
      have hc : isBreakChar c = false := (unbroken_cons.1 (hls _ List.mem_cons_self)).1
      rintro heq
      obtain rfl : c = '\n' := Option.some.inj heq
      cases hc

theorem pieces_terminated_cons (hls : ∀ l ∈ u :: ls, Unbroken l) :
    pieces (terminated lb (u :: ls)) =
      u.map Piece.char ++ .lineBreak lb :: pieces (terminated lb ls) := by
  rw [List.forall_mem_cons] at hls
  have htake : LineBreak.take? (lb.text ++ terminated lb ls) = some (lb, terminated lb ls) :=
    LineBreak.take?_text_append (head?_terminated hls.2)
  have hcons : terminated lb (u :: ls) = u ++ (lb.text ++ terminated lb ls) := by
    rw [terminated, List.flatMap_cons, List.append_assoc]
    rfl
  rw [hcons, pieces_unbroken_append hls.1, pieces_of_take? htake]

theorem linesGo_append (u : Text) (ps : List Piece) :
    lines.go (u.map Piece.char ++ ps) = (u ++ (lines.go ps).1, (lines.go ps).2) := by
  induction u with
  | nil => rfl
  | cons c u ih =>
    rw [List.map_cons, List.cons_append, lines.go, ih]
    rfl

/-- The line behind the last line break is empty. -/
theorem linesGo_terminated (hls : ∀ l ∈ ls, Unbroken l) :
    (lines.go (pieces (terminated lb ls))).1 :: (lines.go (pieces (terminated lb ls))).2 =
      ls ++ [[]] := by
  induction ls with
  | nil => rfl
  | cons u ls ih =>
    rw [pieces_terminated_cons hls, linesGo_append, lines.go]
    dsimp only
    rw [ih (List.forall_mem_cons.1 hls).2, List.append_nil, List.cons_append]

theorem lines_terminated (hls : ∀ l ∈ ls, Unbroken l) : lines (terminated lb ls) = ls := by
  rw [lines]
  dsimp only
  rw [linesGo_terminated hls, List.getLast?_concat, if_pos rfl, List.dropLast_concat]

/-! ## Words -/

theorem words_eq (s : Text) :
    words s = if (wordsFrom s).1 = [] then (wordsFrom s).2
      else (wordsFrom s).1 :: (wordsFrom s).2 := rfl

theorem wordsFrom_blank {c : Char} (hc : isBlank c = true) (s : Text) :
    wordsFrom (c :: s) = ([], words s) := by
  rw [wordsFrom, words_eq]
  dsimp only
  rw [if_pos hc]

theorem wordsFrom_solid_append (hw : ∀ c ∈ w, isBlank c = false) (s : Text) :
    wordsFrom (w ++ s) = (w ++ (wordsFrom s).1, (wordsFrom s).2) := by
  induction w with
  | nil => rfl
  | cons c w ih =>
    rw [List.forall_mem_cons] at hw
    rw [List.cons_append, wordsFrom, ih hw.2, hw.1]
    rfl

theorem words_blank_append (hg : ∀ c ∈ g, isBlank c = true) (s : Text) :
    words (g ++ s) = words s := by
  induction g with
  | nil => rfl
  | cons c g ih =>
    rw [List.forall_mem_cons] at hg
    rw [List.cons_append, words_eq, wordsFrom_blank hg.1, if_pos rfl, ih hg.2]

/-- No word runs on into a text that begins with blank space. -/
theorem wordsFrom_of_blank_head (hs : ∀ c ∈ s.head?, isBlank c = true) :
    wordsFrom s = ([], words s) := by
  cases s with
  | nil => rfl
  | cons c s =>
    have hc := wordsFrom_blank (hs c rfl) s
    rw [words_eq, hc, if_pos rfl]

theorem words_append (hw : ∀ c ∈ w, isBlank c = false) (hne : w ≠ [])
    (hs : ∀ c ∈ s.head?, isBlank c = true) : words (w ++ s) = w :: words s := by
  rw [words_eq, wordsFrom_solid_append hw, wordsFrom_of_blank_head hs, List.append_nil,
    if_neg hne]

end Letterhead.Text

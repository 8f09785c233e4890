import Letterhead.Proofs.Text.Cuts

/-
  Marks that are replaced in a text, and marks at which it is split. Neither brings in a character
  that is not there already, or in what is written for the mark (`mem_replaceAll`,
  `mem_of_mem_splitOn`), and without the mark neither does anything (`replaceAll_of_not_infix`,
  `splitOn_of_not_infix`). Lines that end with a character are read back by splitting at it
  (`splitOn_ended`).
-/

namespace Letterhead.Text

variable {mark value s r : Text} {c : Char}

/-! ## Replacing -/

theorem replaceFrom_cons_of_not_begins (h : ¬ mark <+: c :: s) :
    replaceFrom mark value 0 (c :: s) = c :: replaceFrom mark value 0 s := by
  rw [replaceFrom, if_neg (mt beginsWith_iff.1 h)]

theorem replaceFrom_of_not_infix (h : ¬ mark <:+: s) : replaceFrom mark value 0 s = s := by
  induction s with
  | nil => rfl
  | cons c s ih =>
    rw [List.infix_cons_iff, not_or] at h
    rw [replaceFrom_cons_of_not_begins h.1, ih h.2]

theorem replaceFrom_of_notMem (h : c ∉ s) (mark value r : Text) :
    replaceFrom (c :: mark) value 0 (s ++ r) = s ++ replaceFrom (c :: mark) value 0 r := by
  induction s with
  | nil => rfl
  | cons d s ih =>
    rw [List.mem_cons, not_or] at h
    have hprefix : ¬ c :: mark <+: d :: (s ++ r) := fun hpre =>
      h.1 (List.cons_prefix_cons.1 hpre).1
    rw [List.cons_append, replaceFrom_cons_of_not_begins hprefix, ih h.2, List.cons_append]

theorem replaceFrom_length (mark value s r : Text) :
    replaceFrom mark value s.length (s ++ r) = replaceFrom mark value 0 r := by
  induction s with
  | nil => rfl
  | cons c s ih => rw [List.length_cons, List.cons_append, replaceFrom, ih]

theorem replaceFrom_self (c : Char) (mark value r : Text) :
    replaceFrom (c :: mark) value 0 (c :: mark ++ r) =
      value ++ replaceFrom (c :: mark) value 0 r := by
  have hbegins : beginsWith (c :: mark) (c :: (mark ++ r)) = true :=
    beginsWith_iff.2 (List.prefix_append (c :: mark) r)
  rw [List.cons_append, replaceFrom, if_pos hbegins, List.length_cons, Nat.add_sub_cancel,
    replaceFrom_length]

theorem mem_replaceFrom {n : Nat} (h : c ∈ replaceFrom mark value n s) : c ∈ value ∨ c ∈ s := by
  fun_induction replaceFrom mark value n s with
  | case1 => cases h
  | case2 skip d s ih => exact (ih h).imp_right (List.mem_cons_of_mem d)
  | case3 d s hmark ih =>
    rcases List.mem_append.1 h with h | h
    · exact Or.inl h
    · exact (ih h).imp_right (List.mem_cons_of_mem d)
  | case4 d s hmark ih =>
    rcases List.mem_cons.1 h with rfl | h
    · exact Or.inr List.mem_cons_self
    · exact (ih h).imp_right (List.mem_cons_of_mem d)

theorem mem_replaceAll (h : c ∈ replaceAll mark value s) : c ∈ value ∨ c ∈ s := by
  unfold replaceAll at h
  split at h
  · rcases List.mem_append.1 h with h | h
    · obtain ⟨d, hd, h⟩ := List.mem_flatMap.1 h
      rcases List.mem_append.1 h with h | h
      · exact Or.inl h
      · exact Or.inr (List.mem_singleton.1 h ▸ hd)
    · exact Or.inl h
  · exact mem_replaceFrom h

theorem replaceAll_of_not_infix (hne : mark ≠ []) (h : ¬ mark <:+: s) :
    replaceAll mark value s = s := by
  rw [replaceAll, if_neg hne, replaceFrom_of_not_infix h]

/-! ## Splitting -/

/-- The last piece of a text that is split at a character stands behind the last such character,
if there is one. -/
theorem splitFrom_cases (m : Char) (s : Text) :
    (splitFrom [m] 0 s).2 = [] ∧ (splitFrom [m] 0 s).1 = s ∨
      ∃ last, (splitFrom [m] 0 s).2.getLast? = some last ∧ m :: last <:+ s := by
  induction s with
  | nil => exact Or.inl ⟨rfl, rfl⟩
  | cons c s ih =>
    rw [splitFrom]
    split
    next hc =>
      have hm : m = c := by
        simp only [beginsWith, after?] at hc
        split at hc
        · assumption
        · cases hc
      dsimp only [List.length_singleton]
      rcases ih with ⟨hnone, hall⟩ | ⟨last, hlast, hsuffix⟩
      · rw [hnone, hall]
        exact Or.inr ⟨s, rfl, hm ▸ List.suffix_rfl⟩
      · refine Or.inr ⟨last, ?_, hsuffix.trans (List.suffix_cons _ _)⟩
        rw [List.getLast?_cons, hlast]
        rfl
    next hc =>
      rcases ih with ⟨hnone, hall⟩ | ⟨last, hlast, hsuffix⟩
      · exact Or.inl ⟨hnone, congrArg (c :: ·) hall⟩
      · exact Or.inr ⟨last, hlast, hsuffix.trans (List.suffix_cons _ _)⟩

theorem mem_of_mem_splitFrom {n : Nat} {p : Text}
    (hp : p ∈ (splitFrom mark n s).1 :: (splitFrom mark n s).2) (hc : c ∈ p) : c ∈ s := by
  induction s generalizing n p with
  | nil =>
    rw [splitFrom, List.mem_singleton] at hp
    rwa [hp] at hc
  | cons d s ih =>
    cases n with
    | succ n =>
      rw [splitFrom] at hp
      exact List.mem_cons_of_mem d (ih hp hc)
    | zero =>
      rw [splitFrom] at hp
      split at hp
      · rcases List.mem_cons.1 hp with rfl | hp
        · cases hc
        · exact List.mem_cons_of_mem d (ih hp hc)
      · rcases List.mem_cons.1 hp with rfl | hp
        · rcases List.mem_cons.1 hc with rfl | hc
          · exact List.mem_cons_self
          · exact List.mem_cons_of_mem d (ih List.mem_cons_self hc)
        · exact List.mem_cons_of_mem d (ih (List.mem_cons_of_mem _ hp) hc)

theorem mem_of_mem_splitOn {p : Text} (hp : p ∈ splitOn mark s) (hc : c ∈ p) : c ∈ s :=
  mem_of_mem_splitFrom hp hc

theorem splitFrom_cons_of_not_begins (h : ¬ mark <+: c :: s) :
    splitFrom mark 0 (c :: s) = (c :: (splitFrom mark 0 s).1, (splitFrom mark 0 s).2) := by
  rw [splitFrom, if_neg (mt beginsWith_iff.1 h)]

theorem splitFrom_of_not_infix (h : ¬ mark <:+: s) : splitFrom mark 0 s = (s, []) := by
  induction s with
  | nil => rfl
  | cons c s ih =>
    rw [List.infix_cons_iff, not_or] at h
    rw [splitFrom_cons_of_not_begins h.1, ih h.2]

theorem splitOn_of_not_infix (h : ¬ mark <:+: s) : splitOn mark s = [s] := by
  rw [splitOn, splitFrom_of_not_infix h]

/-- The first line of a text is the first piece. -/
theorem splitOn_line (h : c ∉ s) (r : Text) : splitOn [c] (s ++ c :: r) = s :: splitOn [c] r := by
  induction s with
  | nil =>
    have hbegins : beginsWith [c] (c :: r) = true := beginsWith_iff.2 (List.prefix_append [c] r)
    rw [List.nil_append, splitOn, splitFrom, if_pos hbegins]
    rfl
  | cons d s ih =>
    rw [List.mem_cons, not_or] at h
    have hprefix : ¬ [c] <+: d :: (s ++ c :: r) := fun hpre =>
      h.1 (List.cons_prefix_cons.1 hpre).1
    obtain ⟨hfirst, hrest⟩ := List.cons.inj (ih h.2)
    rw [List.cons_append, splitOn, splitFrom_cons_of_not_begins hprefix, hfirst, hrest]

/-- Lines that end with a character, and the empty piece behind the last one. -/
theorem splitOn_ended {ls : List Text} (h : ∀ l ∈ ls, c ∉ l) :
    splitOn [c] (ls.flatMap fun l => l ++ [c]) = ls ++ [[]] := by
  induction ls with
  | nil => rfl
  | cons l ls ih =>
    rw [List.forall_mem_cons] at h
    rw [List.flatMap_cons, List.append_assoc, List.singleton_append, splitOn_line h.1, ih h.2,
      List.cons_append]

end Letterhead.Text

import Letterhead.Proofs.Tree.Contents

/-
  What a directory lists: the names of its entries, each before those that are greater in the order
  of their characters (`sorted_of_list`). The order of names extends to lists of names, where a
  directory comes before what is below it and everything below one name before everything below a
  later one.
-/

namespace Letterhead

/-! ## The order of names -/

namespace Text

theorem notAfter_total (s t : Text) : notAfter s t = true ∨ notAfter t s = true := by
  induction s generalizing t with
  | nil => exact Or.inl rfl
  | cons c s ih =>
    cases t with
    | nil => exact Or.inr rfl
    | cons d t =>
      simp only [notAfter, Bool.or_eq_true, Bool.and_eq_true, decide_eq_true_eq, beq_iff_eq]
      rcases Nat.lt_trichotomy c.toNat d.toNat with h | h | h
      · exact Or.inl (Or.inl h)
      · have hcd : c = d := Char.toNat_inj.1 h
        exact (ih t).imp (fun hs => Or.inr ⟨hcd, hs⟩) fun hs => Or.inr ⟨hcd.symm, hs⟩
      · exact Or.inr (Or.inl h)

theorem notAfter_refl (s : Text) : notAfter s s = true := (notAfter_total s s).elim id id

theorem notAfter_trans {s t u : Text} (h : notAfter s t = true) (h' : notAfter t u = true) :
    notAfter s u = true := by
  induction s generalizing t u with
  | nil => rfl
  | cons c s ih =>
    cases t with
    | nil => cases h
    | cons d t =>
      cases u with
      | nil => cases h'
      | cons e u =>
        simp only [notAfter, Bool.or_eq_true, Bool.and_eq_true, decide_eq_true_eq,
          beq_iff_eq] at h h' ⊢
        rcases h with h | ⟨rfl, h⟩
        · rcases h' with h' | ⟨rfl, -⟩
          · exact Or.inl (Nat.lt_trans h h')
          · exact Or.inl h
        · exact h'.imp_right fun h' => ⟨h'.1, ih h h'.2⟩

theorem notAfter_antisymm {s t : Text} (h : notAfter s t = true) (h' : notAfter t s = true) :
    s = t := by
  induction s generalizing t with
  | nil =>
    cases t with
    | nil => rfl
    | cons d t => cases h'
  | cons c s ih =>
    cases t with
    | nil => cases h
    | cons d t =>
      simp only [notAfter, Bool.or_eq_true, Bool.and_eq_true, decide_eq_true_eq,
        beq_iff_eq] at h h'
      rcases h with h | ⟨rfl, h⟩
      · rcases h' with h' | ⟨rfl, -⟩
        · exact absurd h (Nat.lt_asymm h')
        · exact absurd h (Nat.lt_irrefl _)
      · rw [ih h (h'.resolve_left (Nat.lt_irrefl _)).2]

/-- One name comes before another one in the order of names. -/
def Before (s t : Text) : Prop := notAfter s t = true ∧ s ≠ t

end Text

namespace Tree.Disk

variable {d : Disk} {p : Path} {names : List Text}

/-- An entry of a directory, by its name. -/
def Listed (d : Disk) (dir : Path) (name : Text) : Prop :=
  ∃ names, d.list dir = .ok names ∧ name ∈ names

theorem listed_iff (h : d.list p = .ok names) {name : Text} : d.Listed p name ↔ name ∈ names := by
  constructor
  · rintro ⟨names', hlist, hmem⟩
    rw [h, Except.ok.injEq] at hlist
    exact hlist ▸ hmem
  · exact fun hmem => ⟨names, h, hmem⟩

theorem listed_iff_of_locate {place : List Text} {es : List (Text × Node)}
    (h : d.locate p = .ok (place, .dir es)) {name : Text} :
    d.Listed p name ↔ name ∈ es.map (·.1) := by
  have hlist : d.list p = .ok (Node.dir es).sortedNames := by rw [list, h]
  rw [listed_iff hlist, Node.sortedNames, List.mem_mergeSort]
  rfl

theorem locate_of_isDir (h : d.isDir p = true) : ∃ place es, d.locate p = .ok (place, .dir es) := by
  unfold isDir at h
  split at h
  next place es hlocate => exact ⟨place, es, hlocate⟩
  next => cases h

theorem exists_list_of_isDir (h : d.isDir p = true) : ∃ names, d.list p = .ok names := by
  obtain ⟨place, es, hlocate⟩ := locate_of_isDir h
  exact ⟨_, by rw [list, hlocate]⟩

theorem isDir_of_listed {name : Text} (h : d.Listed p name) : d.isDir p = true := by
  obtain ⟨names, hlist, -⟩ := h
  unfold list at hlist
  rw [isDir]
  split at hlist
  next place es hlocate => rw [hlocate]
  next => cases hlist
  next => cases hlist

theorem notAfter_of_list (h : d.list p = .ok names) :
    names.Pairwise fun s t => Text.notAfter s t = true := by
  have htrans : ∀ s t u, Text.notAfter s t = true → Text.notAfter t u = true →
      Text.notAfter s u = true := fun _ _ _ => Text.notAfter_trans
  have htotal : ∀ s t, (Text.notAfter s t || Text.notAfter t s) = true := fun s t =>
    Bool.or_eq_true_iff.2 (Text.notAfter_total s t)
  unfold list at h
  split at h
  · rw [← Except.ok.inj h]
    exact List.pairwise_mergeSort htrans htotal _
  · cases h
  · cases h

/-- A directory lists its entries in the order of their names. -/
theorem sorted_of_list (hdistinct : d.root.namesDistinct = true) (h : d.list p = .ok names) :
    names.Pairwise Text.Before :=
  (notAfter_of_list h).and (nodup_of_list hdistinct h)

end Tree.Disk
end Letterhead

import Letterhead.Text.Basic
import Mathlib.Data.List.Induction

/-
  Lists that serve as tables. To assign an entry is to put it in the place of the entry that has
  its key, or at the end when no entry has it (`Assigns`). A table that is filled by assignments
  has each key once, in the order in which the keys first come (`Assigns.keys_run`), and under each
  key the last entry that was assigned to it (`Assigns.find?_run`).
-/

namespace Letterhead

/-- An entry takes the place of the one that has its key; an entry with a new key comes last. -/
structure Assigns {α : Type} (key : α → Text) (set : α → List α → List α) : Prop where
  nil : ∀ x, set x [] = [x]
  cons : ∀ x y ys, set x (y :: ys) = if key y = key x then x :: ys else y :: set x ys

theorem eraseDups_concat (ks : List Text) (k : Text) :
    (ks ++ [k]).eraseDups = if k ∈ ks then ks.eraseDups else ks.eraseDups ++ [k] := by
  have hnew : [k].removeAll ks = if k ∈ ks then [] else [k] := by
    by_cases hk : k ∈ ks <;> simp [List.removeAll, hk]
  rw [List.eraseDups_append, hnew]
  by_cases hk : k ∈ ks <;> simp [hk, List.eraseDups_cons]

namespace Assigns

variable {α : Type} {key : α → Text} {set : α → List α → List α}

theorem keys (h : Assigns key set) (x : α) (ys : List α) :
    (set x ys).map key =
      if key x ∈ ys.map key then ys.map key else ys.map key ++ [key x] := by
  induction ys with
  | nil => simp [h.nil]
  | cons y ys ih =>
    rw [h.cons]
    by_cases hy : key y = key x
    · simp [hy]
    · have hx : key x ≠ key y := fun heq => hy heq.symm
      rw [if_neg hy, List.map_cons, ih, List.map_cons]
      by_cases hmem : key x ∈ ys.map key
      · rw [if_pos hmem, if_pos (List.mem_cons_of_mem _ hmem)]
      · rw [if_neg hmem, if_neg (List.not_mem_cons_of_ne_of_not_mem hx hmem), List.cons_append]

theorem find?_set (h : Assigns key set) (x : α) (ys : List α) (k : Text) :
    (set x ys).find? (fun y => key y == k) =
      if key x = k then some x else ys.find? fun y => key y == k := by
  induction ys with
  | nil => by_cases hx : key x = k <;> simp [h.nil, hx]
  | cons y ys ih =>
    rw [h.cons]
    by_cases hy : key y = key x
    · by_cases hx : key x = k <;> simp [hy, hx]
    · rw [if_neg hy]
      by_cases hk : key y = k
      · have hx : key x ≠ k := fun hx => hy (hk.trans hx.symm)
        rw [List.find?_cons_of_pos (by simpa using hk), List.find?_cons_of_pos (by simpa using hk),
          if_neg hx]
      · rw [List.find?_cons_of_neg (by simpa using hk), List.find?_cons_of_neg (by simpa using hk),
          ih]

/-- Each key comes once, in the order of the first entries that have it. -/
theorem keys_run (h : Assigns key set) (xs : List α) :
    (xs.foldl (fun ys x => set x ys) []).map key = (xs.map key).eraseDups := by
  induction xs using List.reverseRecOn with
  | nil => rfl
  | append_singleton xs x ih =>
    rw [List.foldl_append, List.foldl_cons, List.foldl_nil, h.keys, ih, List.map_append,
      List.map_singleton, eraseDups_concat]
    simp only [List.mem_eraseDups]

/-- Under a key stands the last entry that has it. -/
theorem find?_run (h : Assigns key set) (xs : List α) (k : Text) :
    (xs.foldl (fun ys x => set x ys) []).find? (fun y => key y == k) =
      (xs.filter fun y => key y == k).getLast? := by
  induction xs using List.reverseRecOn with
  | nil => rfl
  | append_singleton xs x ih =>
    rw [List.foldl_append, List.foldl_cons, List.foldl_nil, h.find?_set, ih, List.filter_append,
      List.getLast?_append]
    by_cases hx : key x = k <;> simp [hx]

end Assigns
end Letterhead

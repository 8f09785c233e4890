import Letterhead.Buffer.Basic
import Mathlib.Tactic.Common

/-
  Edits of a buffer. A buffer holds a document behind a text that is not part of it
  (`Buffer.Holds`); what an edit within the document does is told by the pieces of the document
  around it (`Holds.insert_eq`, `Holds.delete_eq`). An edit that the buffer refuses changes nothing
  but the number of refusals that are still to come (`Buffer.Edited`).
-/

namespace Letterhead.Buffer

variable {b : Buffer} {above s t r : Text}

theorem range_eq_ok {i j : Nat} (hij : i ≤ j) (hj : j ≤ b.text.length) :
    b.range i j = .ok (i, j) := by
  unfold range
  rw [if_pos (by omega)]
  rfl

/-- A buffer holds a document behind the text above it. -/
structure Holds (b : Buffer) (above s : Text) : Prop where
  text_eq : b.text = above ++ s
  start_eq : b.start = above.length

theorem Holds.document_eq (h : b.Holds above s) : b.document = .ok s := by
  have hle : b.start ≤ b.text.length := by
    rw [h.text_eq, h.start_eq, List.length_append]
    omega
  have hs : b.text.drop b.start = s := by rw [h.text_eq, h.start_eq, List.drop_left]
  rw [document, read, range_eq_ok hle (Nat.le_refl _)]
  simp [bind, Except.bind, pure, Except.pure, hs]

/-- A buffer with a document holds it behind the text up to its start. -/
theorem holds_of_document (h : b.document = .ok s) : b.Holds (b.text.take b.start) s := by
  unfold document read at h
  by_cases hle : b.start ≤ b.text.length
  · rw [range_eq_ok hle (Nat.le_refl _)] at h
    have hs : b.text.drop b.start = s := by
      simpa [bind, Except.bind, pure, Except.pure] using h
    exact ⟨by rw [← hs, List.take_append_drop], by rw [List.length_take, Nat.min_eq_left hle]⟩
  · unfold range at h
    rw [if_neg (by omega)] at h
    cases h

/-! ## One edit -/

/-- An insertion within the document, where it is not refused. -/
theorem Holds.insert_eq (h : b.Holds above (s ++ r)) (t : Text) :
    b.insert (b.start + s.length) t =
      match b.insertRefusals.head?.join with
      | some reason =>
        (.error (.refused reason), { b with insertRefusals := b.insertRefusals.tail })
      | none => (.ok (), { b with
          insertRefusals := b.insertRefusals.tail, text := above ++ (s ++ t ++ r) }) := by
  have htext : b.text = above ++ s ++ r := by rw [h.text_eq, List.append_assoc]
  have hlen : (above ++ s).length = b.start + s.length := by rw [h.start_eq, List.length_append]
  have htake : b.text.take (b.start + s.length) = above ++ s := by
    rw [htext, ← hlen, List.take_left]
  have hdrop : b.text.drop (b.start + s.length) = r := by rw [htext, ← hlen, List.drop_left]
  have hle : b.start + s.length ≤ b.text.length := by
    rw [htext, List.length_append, hlen]
    omega
  have hrange := range_eq_ok (Nat.le_refl _) hle
  rw [Int.natCast_add] at hrange
  unfold insert
  rw [hrange]
  cases b.insertRefusals.head?.join with
  | some reason => rfl
  | none => simp [htake, hdrop]

/-- A deletion within the document, where it is not refused. -/
theorem Holds.delete_eq (h : b.Holds above (s ++ t ++ r)) :
    b.delete (b.start + s.length) (b.start + s.length + t.length) =
      match b.deleteRefusals.head?.join with
      | some reason =>
        (.error (.refused reason), { b with deleteRefusals := b.deleteRefusals.tail })
      | none => (.ok (), { b with
          deleteRefusals := b.deleteRefusals.tail, text := above ++ (s ++ r) }) := by
  have htext : b.text = above ++ s ++ (t ++ r) := by rw [h.text_eq]; simp
  have hlen : (above ++ s).length = b.start + s.length := by rw [h.start_eq, List.length_append]
  have htake : b.text.take (b.start + s.length) = above ++ s := by
    rw [htext, ← hlen, List.take_left]
  have hdrop : b.text.drop (b.start + s.length + t.length) = r := by
    rw [htext, ← hlen, ← List.drop_drop, List.drop_left, List.drop_left]
  have hle : b.start + s.length + t.length ≤ b.text.length := by
    rw [htext, List.length_append, hlen, List.length_append]
    omega
  have hrange := range_eq_ok (Nat.le_add_right (b.start + s.length) t.length) hle
  rw [Int.natCast_add, Int.natCast_add, Int.natCast_add] at hrange
  unfold delete
  rw [hrange]
  cases b.deleteRefusals.head?.join with
  | some reason => rfl
  | none => simp [htake, hdrop]

/-! ## Refusals -/

/-- The number of edits that a buffer is still going to refuse. -/
def refusals (b : Buffer) : Nat :=
  b.insertRefusals.countP Option.isSome + b.deleteRefusals.countP Option.isSome

/-- How an edit that is to turn the document `s` into `t` ends: it is done, or it is refused, which
uses up one refusal and leaves the document. -/
inductive Edited (b : Buffer) (above s t : Text) : Except BufferError Unit × Buffer → Prop
  | done {b' : Buffer} (hb : b'.Holds above t) (hn : b.refusals = b'.refusals) :
      Edited b above s t (.ok (), b')
  | refused {b' : Buffer} {reason : String} (hb : b'.Holds above s)
      (hn : b.refusals = b'.refusals + 1) : Edited b above s t (.error (.refused reason), b')

theorem countP_isSome_eq (l : List (Option String)) :
    l.countP Option.isSome =
      l.tail.countP Option.isSome + if l.head?.join.isSome then 1 else 0 := by
  cases l with
  | nil => rfl
  | cons x l => cases x <;> simp

theorem Holds.edited_insert (h : b.Holds above (s ++ r)) (t : Text) :
    b.Edited above (s ++ r) (s ++ t ++ r) (b.insert (b.start + s.length) t) := by
  have hcount := countP_isSome_eq b.insertRefusals
  rw [h.insert_eq]
  cases hr : b.insertRefusals.head?.join with
  | some reason =>
    rw [hr, Option.isSome_some, if_pos rfl] at hcount
    refine .refused ⟨h.text_eq, h.start_eq⟩ ?_
    rw [refusals, refusals, hcount]
    dsimp only
    omega
  | none =>
    rw [hr, Option.isSome_none, if_neg Bool.false_ne_true] at hcount
    exact .done ⟨rfl, h.start_eq⟩ (by rw [refusals, refusals, hcount, Nat.add_zero])

theorem Holds.edited_delete (h : b.Holds above (s ++ t ++ r)) :
    b.Edited above (s ++ t ++ r) (s ++ r)
      (b.delete (b.start + s.length) (b.start + s.length + t.length)) := by
  have hcount := countP_isSome_eq b.deleteRefusals
  rw [h.delete_eq]
  cases hr : b.deleteRefusals.head?.join with
  | some reason =>
    rw [hr, Option.isSome_some, if_pos rfl] at hcount
    refine .refused ⟨h.text_eq, h.start_eq⟩ ?_
    rw [refusals, refusals, hcount]
    dsimp only
    omega
  | none =>
    rw [hr, Option.isSome_none, if_neg Bool.false_ne_true] at hcount
    exact .done ⟨rfl, h.start_eq⟩ (by rw [refusals, refusals, hcount, Nat.add_zero])

end Letterhead.Buffer

import Letterhead.Comment.Header
import Mathlib.Tactic.Common

/-
  The offsets of consecutive texts. Their spans tile the whole text (`tiles_spans`) and hold the
  texts (`map_spans`); the spans of two lists of texts behind each other are those of each, the
  second ones shifted (`spans_append`, `spans_shift`), and are told apart by the offset at which
  the second list begins (`filter_spans`).
-/

namespace Letterhead.Comment

/-- Non-empty spans that lie one behind the other, from one offset to another. -/
def Tiles : Nat → List (Nat × Nat) → Nat → Prop
  | start, [], stop => start = stop
  | start, p :: ps, stop => p.1 = start ∧ start < p.2 ∧ Tiles p.2 ps stop

variable {ss later : List Text} {start n : Nat} {p : Nat × Nat}

theorem tiles_spans (hss : ∀ s ∈ ss, s ≠ []) (start : Nat) :
    Tiles start (spans start ss) (start + ss.flatten.length) := by
  induction ss generalizing start with
  | nil => rfl
  | cons s ss ih =>
    rw [List.forall_mem_cons] at hss
    have hpos := List.length_pos_iff.2 hss.1
    have hrest := ih hss.2 (start + s.length)
    rw [Nat.add_assoc, ← List.length_append, ← List.flatten_cons] at hrest
    exact ⟨rfl, Nat.lt_add_of_pos_right hpos, hrest⟩

theorem spans_append (start : Nat) (ss later : List Text) :
    spans start (ss ++ later) = spans start ss ++ spans (start + ss.flatten.length) later := by
  induction ss generalizing start with
  | nil => rfl
  | cons s ss ih =>
    rw [List.cons_append, spans, ih, spans, List.cons_append, List.flatten_cons,
      List.length_append, Nat.add_assoc]

theorem spans_shift (n start : Nat) (ss : List Text) :
    spans (n + start) ss = (spans start ss).map fun p => (n + p.1, n + p.2) := by
  induction ss generalizing start with
  | nil => rfl
  | cons s ss ih => rw [spans, spans, List.map_cons, Nat.add_assoc, ih]

/-- Each span is that of its text. -/
theorem map_spans (x r : Text) (ss : List Text) :
    (spans x.length ss).map (fun p => ((x ++ (ss.flatten ++ r)).take p.2).drop p.1) = ss := by
  induction ss generalizing x with
  | nil => rfl
  | cons s ss ih =>
    have htext : x ++ ((s :: ss).flatten ++ r) = x ++ s ++ (ss.flatten ++ r) := by simp
    rw [spans, List.map_cons, htext, ← List.length_append, List.take_left, List.drop_left, ih]

theorem bounds_of_mem_spans (hss : ∀ s ∈ ss, s ≠ []) (hp : p ∈ spans start ss) :
    start ≤ p.1 ∧ p.1 < p.2 ∧ p.2 ≤ start + ss.flatten.length := by
  induction ss generalizing start with
  | nil => cases hp
  | cons s ss ih =>
    rw [List.forall_mem_cons] at hss
    have hpos := List.length_pos_iff.2 hss.1
    rw [List.flatten_cons, List.length_append]
    rcases List.mem_cons.1 hp with rfl | hp
    · dsimp only
      omega
    · have := ih hss.2 hp
      omega

theorem mem_starts_iff : n ∈ (spans start ss).map Prod.fst ↔
    ∃ first later, ss = first ++ later ∧ later ≠ [] ∧ n = start + first.flatten.length := by
  constructor
  · intro h
    obtain ⟨p, hp, rfl⟩ := List.mem_map.1 h
    clear h
    induction ss generalizing start with
    | nil => cases hp
    | cons s ss ih =>
      rcases List.mem_cons.1 hp with rfl | hp
      · exact ⟨[], s :: ss, rfl, List.cons_ne_nil s ss, rfl⟩
      · obtain ⟨first, later, rfl, hne, hn⟩ := ih hp
        refine ⟨s :: first, later, rfl, hne, ?_⟩
        rw [hn, List.flatten_cons, List.length_append, Nat.add_assoc]
  · rintro ⟨first, later, rfl, hne, rfl⟩
    obtain ⟨s, later, rfl⟩ := List.exists_cons_of_ne_nil hne
    rw [spans_append, List.map_append]
    exact List.mem_append_right _ List.mem_cons_self

/-- The spans before and behind an offset at which a text begins. -/
theorem filter_spans (hss : ∀ s ∈ ss, s ≠ []) (hlater : ∀ s ∈ later, s ≠ []) :
    (spans 0 (ss ++ later)).filter (fun p => p.2 ≤ ss.flatten.length) = spans 0 ss ∧
      (spans 0 (ss ++ later)).filter (fun p => ss.flatten.length ≤ p.1) =
        spans ss.flatten.length later := by
  have hbefore : ∀ p ∈ spans 0 ss, p.1 < p.2 ∧ p.2 ≤ ss.flatten.length := fun p hp => by
    have := bounds_of_mem_spans hss hp
    omega
  have hbehind : ∀ p ∈ spans ss.flatten.length later, ss.flatten.length ≤ p.1 ∧ p.1 < p.2 :=
    fun p hp => by
      have := bounds_of_mem_spans hlater hp
      omega
  rw [spans_append, Nat.zero_add, List.filter_append, List.filter_append]
  constructor
  · rw [List.filter_eq_self.2, List.filter_eq_nil_iff.2, List.append_nil]
    · intro p hp
      have := hbehind p hp
      simp only [decide_eq_true_eq]
      omega
    · intro p hp
      simpa using (hbefore p hp).2
  · rw [List.filter_eq_nil_iff.2, List.filter_eq_self.2, List.nil_append]
    · intro p hp
      simpa using (hbehind p hp).1
    · intro p hp
      have := hbefore p hp
      simp only [decide_eq_true_eq]
      omega

end Letterhead.Comment

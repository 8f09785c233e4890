import Letterhead.Pattern.Match

/-
  Matching keeps to the text. A place is within a text when the characters before it and those from
  it on make up that text. Every goal that a pattern is taken towards is only ever asked at places
  within the text (`Goal.Keeps`, `run_keeps`), so that the match at the start of a text and what
  follows it are the text: `eq_append_of_cutStart?`.
-/

namespace Letterhead.Pattern

variable {t : Text} {s : Place} {m : Memory} {k : Goal}

/-! ## Places -/

/-- A place within a text. -/
def Place.Within (t : Text) (s : Place) : Prop := s.passed.reverse ++ s.ahead = t

theorem Place.within_start (t : Text) : (Place.start t).Within t := by
  simp [Place.Within, Place.start]

theorem Place.Within.next (h : s.Within t) : s.next.Within t := by
  obtain ⟨i, passed, ahead⟩ := s
  cases ahead with
  | nil => exact h
  | cons c r => simpa [Place.Within, Place.next] using h

theorem Place.Within.prev (h : s.Within t) : s.prev.Within t := by
  obtain ⟨i, passed, ahead⟩ := s
  cases passed with
  | nil => exact h
  | cons c r => simpa [Place.Within, Place.prev] using h

theorem Place.Within.skip (h : s.Within t) (n : Nat) : (s.skip n).Within t := by
  induction n generalizing s with
  | zero => exact h
  | succ n ih => exact ih h.next

theorem Place.Within.back (h : s.Within t) (n : Nat) : (s.back n).Within t := by
  induction n generalizing s with
  | zero => exact h
  | succ n ih => exact ih h.prev

/-! ## Memories, attempts and goals -/

/-- A memory that looked last at a place within a text. -/
def Memory.Within (t : Text) (m : Memory) : Prop := m.place.Within t

theorem Memory.within_visit (hs : s.Within t) (m : Memory) : (m.visit s).Within t := hs

theorem Memory.Within.setMark (h : m.Within t) (n : Nat) (s : Place) :
    (m.setMark n s).Within t := by
  unfold Memory.setMark
  split <;> exact h

theorem Memory.Within.restore (h : m.Within t) (looped : Bool) (marks : List (Option Place)) :
    (m.restore looped marks).Within t := h

theorem Memory.within_afterCount (hs : s.Within t) (set : CharSet) (n : Nat) (m : Memory) :
    (afterCount set n s m).Within t := by
  unfold afterCount
  split
  · exact hs.skip n
  · exact hs

/-- An attempt that leaves a memory within a text behind, whichever way it ends. -/
def Attempt.Within (t : Text) : Attempt → Prop
  | .matched m | .failed m => m.Within t

theorem Attempt.Within.orElse {a : Attempt} {other : Memory → Attempt} (ha : a.Within t)
    (ho : ∀ m, m.Within t → (other m).Within t) : (a.orElse other).Within t := by
  cases a with
  | matched m => exact ha
  | failed m => exact ho m ha

/-- A goal that, asked within a text, stays within it. -/
def Goal.Keeps (t : Text) (k : Goal) : Prop :=
  ∀ s m, s.Within t → m.Within t → (k s m).Within t

theorem Goal.keeps_done (t : Text) : Goal.done.Keeps t := fun _ m hs _ => m.within_visit hs

/-! ## Runs of single characters and repetitions -/

theorem giveBack_within (hk : k.Keeps t) (looped : Bool) (literal : Option Nat)
    (marks : List (Option Place)) (n : Nat) (hs : s.Within t) (hm : m.Within t) :
    (giveBack looped literal k marks n s m).Within t := by
  induction n generalizing s m with
  | zero =>
    unfold giveBack
    refine Attempt.Within.orElse ?_ fun m hm => hm
    split
    · exact (hk s _ hs (m.within_visit hs)).orElse fun m hm => hm.restore looped marks
    · exact hm
  | succ n ih =>
    unfold giveBack
    refine Attempt.Within.orElse ?_ fun m hm => ih hs.prev hm
    split
    · exact (hk s _ hs (m.within_visit hs)).orElse fun m hm => hm.restore looped marks
    · exact hm

theorem takeMore_within (hk : k.Keeps t) (looped : Bool) (set : CharSet)
    (marks : List (Option Place)) (fuel : Nat) (hi : Option Nat) (hs : s.Within t)
    (hm : m.Within t) : (takeMore looped set k marks fuel hi s m).Within t := by
  induction fuel generalizing hi s m with
  | zero => exact hm
  | succ fuel ih =>
    unfold takeMore
    refine (hk s _ hs (m.within_visit hs)).orElse fun m _ => ?_
    dsimp only
    split
    · exact Memory.within_afterCount hs _ _ _
    · exact ih _ hs.next (Memory.within_afterCount hs _ _ _)

theorem runSingle_keeps (hk : k.Keeps t) (looped : Bool) (set : CharSet) (lo : Nat)
    (hi : Option Nat) (greed : Greed) (literal : Option Nat) :
    (runSingle looped set lo hi greed literal k).Keeps t := by
  intro s m hs hm
  unfold runSingle
  split
  · exact hm
  · dsimp only
    generalize countUpTo set (if greed = .lazy then some lo else hi) s.ahead = n
    have hcount := Memory.within_afterCount hs set n m
    split
    · exact hcount
    · cases greed with
      | greedy => exact giveBack_within hk _ _ _ _ (hs.skip _) hcount
      | lazy => exact takeMore_within hk _ _ _ _ _ (hs.skip _) hcount
      | possessive => exact hk _ _ (hs.skip _) hcount

theorem iterate_keeps {body : Goal → Goal} (hbody : ∀ k, k.Keeps t → (body k).Keeps t)
    (hk : k.Keeps t) (looped isLazy : Bool) (fuel lo : Nat) (hi last : Option Nat) :
    (iterate looped body isLazy k fuel lo hi last).Keeps t := by
  induction fuel generalizing lo hi last with
  | zero => exact fun s m _ hm => hm
  | succ fuel ih =>
    intro s m hs hm
    have hfail : ∀ m : Memory, m.Within t → (Attempt.failed (m.visit s)).Within t :=
      fun m _ => m.within_visit hs
    cases lo with
    | succ lo =>
      unfold iterate
      exact (hbody _ (ih _ _ _) s _ hs (m.within_visit hs)).orElse hfail
    | zero =>
      unfold iterate
      dsimp only
      split
      · refine (hk s _ hs (m.within_visit hs)).orElse fun m _ => ?_
        split
        · exact Memory.within_visit hs _
        · exact (hbody _ (ih _ _ _) s _ hs (Memory.within_visit hs _)).orElse hfail
      · split
        · exact (hk s _ hs (m.within_visit hs)).orElse hfail
        · refine (hbody _ (ih _ _ _) s _ hs (m.within_visit hs)).orElse fun m _ => ?_
          refine Attempt.Within.orElse (hk s _ hs ?_) hfail
          exact hs

theorem exhaust_within {body : Goal} (hbody : body.Keeps t) (hk : k.Keeps t) {start : Place}
    (hstart : start.Within t) (fuel lo : Nat) (hi : Option Nat) (hm : m.Within t) :
    (exhaust body start k fuel lo hi m).Within t := by
  induction fuel generalizing lo hi m with
  | zero => exact hm
  | succ fuel ih =>
    have hround := hbody m.place m hm hm
    cases lo with
    | succ lo =>
      unfold exhaust
      split
      next n hn => rw [hn] at hround; exact ih _ _ hround
      next => exact m.within_visit hstart
    | zero =>
      unfold exhaust
      split
      · exact hk _ _ hm hm
      · split
        next n hn =>
          rw [hn] at hround
          split
          · exact hk _ _ hround hround
          · exact ih _ _ hround
        next n hn =>
          rw [hn] at hround
          exact hk _ _ hround hround

/-! ## Patterns -/

theorem runText_keeps (hk : k.Keeps t) (rule : CaseRule) (r : Text) :
    (runText rule k r).Keeps t := by
  induction r with
  | nil => exact hk
  | cons d r ih =>
    intro s m hs hm
    unfold runText
    split
    · split
      · exact ih _ _ hs.next hm
      · exact hm
    · exact hm

mutual

theorem run_keeps {k : Goal} (hk : k.Keeps t) (looped : Bool) (p : List Step) :
    (run looped p k).Keeps t := by
  cases p with
  | nil => rw [run_nil]; exact hk
  | cons step p => rw [run_cons]; exact runStep_keeps (run_keeps hk looped p) looped _ step

theorem runStep_keeps {k : Goal} (hk : k.Keeps t) (looped : Bool) (literal : Option Nat) (step : Step) :
    (runStep looped literal step k).Keeps t := by
  intro s m hs hm
  cases step with
  | one set =>
    rw [runStep]
    split
    · split
      · exact hk _ _ hs.next hm
      · exact hm
    · exact hm
  | anchor a =>
    rw [runStep]
    split
    · exact hk _ _ hs hm
    · exact hm
  | mark group atEnd =>
    rw [runStep]
    exact hk _ _ hs (hm.setMark _ _)
  | choice ps =>
    rw [runStep]
    exact runChoice_keeps hk looped ps _ _ _ hs hm
  | repeated lo hi greed p =>
    by_cases hp : ∃ set, p = [.one set]
    · obtain ⟨set, rfl⟩ := hp
      rw [runStep]
      exact runSingle_keeps hk _ _ _ _ _ _ _ _ hs hm
    · rw [runStep]
      · split
        · exact exhaust_within (run_keeps (Goal.keeps_done t) looped p) hk hs _ _ _
            (m.within_visit hs)
        · exact iterate_keeps (fun k hk => run_keeps hk true p) hk _ _ _ _ _ _ _ _ hs
            (m.within_visit hs)
      · exact fun set h => hp ⟨set, h⟩
  | backref group rule =>
    rw [runStep]
    split
    · exact runText_keeps hk _ _ _ _ hs hm
    · exact hm
  | look negated behind p =>
    have hback := hs.back behind
    have hp := run_keeps (Goal.keeps_done t) looped p _ _ hback (m.within_visit hback)
    simp only [runStep]
    split
    · split
      · exact hk _ _ hs hm
      · exact hm
    · split
      next n hn => rw [hn] at hp; exact hk _ _ hs hp
      next n hn => rw [hn] at hp; exact hk _ _ hs (hp.restore _ _)
      next n hn => rw [hn] at hp; exact hp
      next n hn => rw [hn] at hp; exact hp
  | atomic p =>
    have hp := run_keeps (Goal.keeps_done t) looped p _ _ hs (m.within_visit hs)
    rw [runStep]
    split
    next n hn => rw [hn] at hp; exact hk _ _ hp hp
    next n hn => exact n.within_visit hs
  | ifGroup group p q =>
    rw [runStep]
    split
    · exact run_keeps hk looped p _ _ hs hm
    · exact run_keeps hk looped q _ _ hs hm

theorem runChoice_keeps {k : Goal} (hk : k.Keeps t) (looped : Bool) (ps : List (List Step))
    (marks : List (Option Place)) (s : Place) (m : Memory) (hs : s.Within t) (hm : m.Within t) :
    (runChoice looped ps k marks s m).Within t := by
  cases ps with
  | nil => rw [runChoice]; exact hm
  | cons p ps =>
    rw [runChoice]
    split
    · exact (run_keeps hk looped p _ _ hs (m.within_visit hs)).orElse fun m hm =>
        runChoice_keeps hk looped ps _ _ _ hs (hm.restore _ _)
    · exact runChoice_keeps hk looped ps _ _ _ hs hm

end

theorem eq_append_of_cutStart? {p : Pattern} {t l r : Text} (h : cutStart? p t = some (l, r)) :
    t = l ++ r := by
  have hrun := run_keeps (Goal.keeps_done t) false p _ ⟨.start t, []⟩ (Place.within_start t)
    (Place.within_start t)
  unfold cutStart? at h
  split at h
  next m hm =>
    rw [hm] at hrun
    simp only [Option.some.injEq, Prod.mk.injEq] at h
    rw [← h.1, ← h.2]
    exact hrun.symm
  next => cases h

end Letterhead.Pattern

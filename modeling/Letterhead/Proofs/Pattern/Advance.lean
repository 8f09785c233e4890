import Letterhead.Language.BuiltIn
import Mathlib.Data.List.Induction

/-
  Matching step by step. A place is told by the text before it and the text from it on, and what a
  step does is told by the text ahead: a word is passed or not (`run_word`, `run_word_failed`), a
  greedy run takes all it can (`run_greedy`), a lazy one goes on while the rest of the pattern fails
  (`run_lazy_matched`, `run_lazy_failed`). Characters, marks and greedy runs only move forward, and
  a repetition of them that may be left out matches wherever it is tried (`exists_run_optional`).
-/

namespace Letterhead.Pattern

open Language.BuiltIn (word)

variable {looped : Bool} {set : CharSet} {p : Pattern} {k : Goal} {m : Memory} {l r t : Text}

/-! ## Places by the texts around them -/

/-- The place behind a text and before another one. -/
def Place.between (l r : Text) : Place := ⟨l.length, l.reverse, r⟩

theorem Place.next_between (l r : Text) (c : Char) :
    (between l (c :: r)).next = between (l ++ [c]) r := by
  simp [between, next]

theorem Place.prev_between (l r : Text) (c : Char) :
    (between (l ++ [c]) r).prev = between l (c :: r) := by
  simp [between, prev]

theorem Place.skip_between (l a r : Text) :
    (between l (a ++ r)).skip a.length = between (l ++ a) r := by
  induction a generalizing l with
  | nil => rw [List.append_nil]; rfl
  | cons c a ih =>
    rw [List.length_cons, List.cons_append, skip, next_between, ih, List.append_assoc]
    rfl

/-! ## Cuts -/

theorem cutStart?_of_matched (h : run false p .done (.start t) ⟨.start t, []⟩ = .matched m) :
    cutStart? p t = some (m.place.passed.reverse, m.place.ahead) := by
  rw [cutStart?, h]

theorem cutStart?_of_failed (h : run false p .done (.start t) ⟨.start t, []⟩ = .failed m) :
    cutStart? p t = none := by
  rw [cutStart?, h]

/-! ## Words -/

theorem run_one (set : CharSet) (p : Pattern) (k : Goal) (l r : Text) (c : Char) (m : Memory) :
    run looped (.one set :: p) k (.between l (c :: r)) m =
      if set.contains c then run looped p k (.between (l ++ [c]) r) m else .failed m := by
  rw [run_cons, runStep_one, ← Place.next_between]
  rfl

/-- A word whose characters pass their own tests is passed where it comes next. -/
theorem run_word {w : String}
    (hw : ∀ c ∈ w.toList, (CharSet.ofCode false .fold c.toNat).contains c = true) :
    run looped (word w ++ p) k (.between l (w.toList ++ r)) m =
      run looped p k (.between (l ++ w.toList) r) m := by
  unfold word
  generalize w.toList = u at hw
  induction u generalizing l with
  | nil => rw [List.append_nil]; rfl
  | cons c u ih =>
    rw [List.forall_mem_cons] at hw
    rw [List.map_cons, List.cons_append, List.cons_append, run_one, if_pos hw.1, ih hw.2,
      List.append_assoc]
    rfl

theorem contains_exact (c d : Char) :
    (CharSet.char false .exact c.toNat).contains d = true ↔ d = c := by
  simp [CharSet.contains, CaseRule.letters, CaseRule.lower, CaseRule.lowerNumber, Char.toNat_inj]

/-- A word without letters is not passed where something else comes next. -/
theorem run_word_failed {w : String}
    (hw : ∀ c ∈ w.toList, CharSet.ofCode false .fold c.toNat = .char false .exact c.toNat)
    (hr : ¬ w.toList <+: r) : run looped (word w ++ p) k (.between l r) m = .failed m := by
  unfold word
  generalize w.toList = u at hw hr
  induction u generalizing l r with
  | nil => exact absurd List.nil_prefix hr
  | cons c u ih =>
    rw [List.forall_mem_cons] at hw
    rw [List.map_cons, List.cons_append, hw.1]
    cases r with
    | nil => rw [run_cons, runStep_one]; rfl
    | cons d r =>
      rw [run_one]
      split
      next hd =>
        obtain rfl := (contains_exact c d).1 hd
        exact ih hw.2 fun hu => hr (List.cons_prefix_cons.2 ⟨rfl, hu⟩)
      next => rfl

/-- A goal that is not reached from a place. -/
def Goal.Fails (k : Goal) (s : Place) : Prop := ∀ m, ∃ m', k s m = .failed m'

/-! ## Runs of characters -/

theorem countUpTo_eq (set : CharSet) (s : Text) :
    countUpTo set none s = (s.takeWhile set.contains).length := by
  induction s with
  | nil => rfl
  | cons c s ih =>
    by_cases hc : set.contains c = true
    · simp [countUpTo, hc, ih]
    · simp [countUpTo, hc]

/-- A greedy run first takes all characters that pass its test. -/
theorem runSingle_greedy (looped : Bool) (set : CharSet) (literal : Option Nat) (k : Goal)
    (l t : Text) (m : Memory) :
    ∃ m', runSingle looped set 0 none .greedy literal k (.between l t) m =
      giveBack looped literal k m'.marks (t.takeWhile set.contains).length
        (.between (l ++ t.takeWhile set.contains) (t.dropWhile set.contains)) m' := by
  have hcount : countUpTo set none (Place.between l t).ahead =
      (t.takeWhile set.contains).length := countUpTo_eq set t
  have hskip := Place.skip_between l (t.takeWhile set.contains) (t.dropWhile set.contains)
  rw [List.takeWhile_append_dropWhile] at hskip
  rw [runSingle]
  simp only [Place.hasAhead, Nat.zero_le, decide_true, Bool.not_true, Bool.false_eq_true, if_false,
    reduceCtorEq, hcount, Nat.not_lt_zero, hskip]
  exact ⟨_, rfl⟩

/-- A greedy run at the end of a pattern keeps all that it takes. -/
theorem run_greedy (set : CharSet) (l t : Text) (m : Memory) :
    ∃ m', run looped [.repeated 0 none .greedy [.one set]] .done (.between l t) m = .matched m' ∧
      m'.place = .between (l ++ t.takeWhile set.contains) (t.dropWhile set.contains) := by
  obtain ⟨m', hm'⟩ := runSingle_greedy looped set none .done l t m
  refine ⟨m'.visit (.between (l ++ t.takeWhile set.contains) (t.dropWhile set.contains)), ?_, rfl⟩
  rw [run_cons, runStep_single, show leading? [] = none from rfl, run_nil, hm', giveBack]
  rfl

theorem countUpTo_one (set : CharSet) (c : Char) (s : Text) :
    countUpTo set (some 1) (c :: s) = if set.contains c then 1 else 0 := by
  rw [countUpTo]
  · cases s <;> rfl
  · exact nofun

/-- A lazy run goes on behind the next character where the rest of the pattern fails. -/
theorem takeMore_next {c : Char} (hc : set.contains c = true) {m' : Memory}
    (hk : k (.between l (c :: r)) (m.visit (.between l (c :: r))) = .failed m')
    (marks : List (Option Place)) (fuel : Nat) :
    ∃ m'', takeMore looped set k marks (fuel + 1) none (.between l (c :: r)) m =
      takeMore looped set k marks fuel none (.between (l ++ [c]) r) m'' := by
  have hcount : countUpTo set (some 1) (Place.between l (c :: r)).ahead = 1 := by
    rw [Place.between, countUpTo_one, if_pos hc]
  rw [takeMore, hk]
  simp only [Attempt.orElse, hcount, Nat.one_ne_zero, reduceCtorEq, or_self, if_false,
    Option.map_none, Place.next_between]
  exact ⟨_, rfl⟩

/-- A lazy run does not go on behind a character that does not pass. -/
theorem takeMore_last {c : Char} (hc : set.contains c = false) {m' : Memory}
    (hk : k (.between l (c :: r)) (m.visit (.between l (c :: r))) = .failed m')
    (marks : List (Option Place)) (fuel : Nat) :
    ∃ m'', takeMore looped set k marks (fuel + 1) none (.between l (c :: r)) m = .failed m'' := by
  have hcount : countUpTo set (some 1) (Place.between l (c :: r)).ahead = 0 := by
    rw [Place.between, countUpTo_one, if_neg (by simp [hc])]
  rw [takeMore, hk]
  simp only [Attempt.orElse, hcount, true_or, if_true]
  exact ⟨_, rfl⟩

/-- A lazy run goes on as long as the rest of the pattern fails. -/
theorem takeMore_past {a : Text} (ha : ∀ c ∈ a, set.contains c = true)
    (hfail : ∀ y z, a = y ++ z → z ≠ [] → k.Fails (.between (l ++ y) (z ++ r)))
    (marks : List (Option Place)) (fuel : Nat) (m : Memory) :
    ∃ m', takeMore looped set k marks (fuel + a.length) none (.between l (a ++ r)) m =
      takeMore looped set k marks fuel none (.between (l ++ a) r) m' := by
  induction a generalizing l m with
  | nil => exact ⟨m, by rw [List.append_nil]; rfl⟩
  | cons c a ih =>
    rw [List.forall_mem_cons] at ha
    obtain ⟨m₁, hm₁⟩ := hfail [] (c :: a) rfl (List.cons_ne_nil c a)
      (m.visit (.between l (c :: (a ++ r))))
    rw [List.append_nil] at hm₁
    obtain ⟨m₂, hm₂⟩ := takeMore_next ha.1 hm₁ marks (fuel + a.length)
    obtain ⟨m₃, hm₃⟩ := ih ha.2 (l := l ++ [c]) (fun y z hyz hz => by
      rw [List.append_assoc]
      exact hfail (c :: y) z (congrArg (c :: ·) hyz) hz) m₂
    refine ⟨m₃, ?_⟩
    rw [List.length_cons, ← Nat.add_assoc, List.cons_append, hm₂, hm₃, List.append_assoc]
    rfl

theorem run_lazy (set : CharSet) (p : Pattern) (k : Goal) (l t : Text) (m : Memory) :
    ∃ m', run looped (.repeated 0 none .lazy [.one set] :: p) k (.between l t) m =
      takeMore looped set (run looped p k) m'.marks (t.length + 1) none (.between l t) m' := by
  rw [run_cons, runStep_single, runSingle]
  have hcount : countUpTo set (some 0) (Place.between l t).ahead = 0 := by rw [countUpTo]
  simp only [Place.hasAhead, Nat.zero_le, decide_true, Bool.not_true, Bool.false_eq_true, if_false,
    if_true, hcount, Nat.not_lt_zero, Option.map_none]
  exact ⟨_, rfl⟩

/-- A lazy run matches through the text up to where the rest of the pattern matches first, and the
match is the one that the rest finds there. -/
theorem run_lazy_matched {P : Memory → Prop} {a : Text} (ha : ∀ c ∈ a, set.contains c = true)
    (hfail : ∀ y z, a = y ++ z → z ≠ [] →
      (run looped p k).Fails (.between (l ++ y) (z ++ r)))
    (hmatch : ∀ m, ∃ m', run looped p k (.between (l ++ a) r) m = .matched m' ∧ P m')
    (m : Memory) :
    ∃ m', run looped (.repeated 0 none .lazy [.one set] :: p) k (.between l (a ++ r)) m =
      .matched m' ∧ P m' := by
  obtain ⟨m₁, hm₁⟩ := run_lazy set p k l (a ++ r) m
  obtain ⟨m₂, hm₂⟩ := takeMore_past ha hfail m₁.marks (r.length + 1) m₁
  obtain ⟨m₃, hm₃, hP⟩ := hmatch (m₂.visit (.between (l ++ a) r))
  refine ⟨m₃, ?_, hP⟩
  have hfuel : (a ++ r).length + 1 = r.length + 1 + a.length := by
    rw [List.length_append]
    omega
  rw [hm₁, hfuel, hm₂, takeMore, hm₃]
  rfl

/-- A lazy run fails at a character that does not pass its test, if the rest of the pattern matches
nowhere up to there. -/
theorem run_lazy_failed {a : Text} {c : Char} (ha : ∀ c ∈ a, set.contains c = true)
    (hc : set.contains c = false)
    (hfail : ∀ y z, a = y ++ z → (run looped p k).Fails (.between (l ++ y) (z ++ c :: r)))
    (m : Memory) :
    ∃ m', run looped (.repeated 0 none .lazy [.one set] :: p) k (.between l (a ++ c :: r)) m =
      .failed m' := by
  obtain ⟨m₁, hm₁⟩ := run_lazy set p k l (a ++ c :: r) m
  obtain ⟨m₂, hm₂⟩ := takeMore_past ha (fun y z hyz _ => hfail y z hyz) m₁.marks
    ((c :: r).length + 1) m₁
  obtain ⟨m₃, hm₃⟩ := hfail a [] (List.append_nil a).symm (m₂.visit (.between (l ++ a) (c :: r)))
  obtain ⟨m₄, hm₄⟩ := takeMore_last hc hm₃ m₁.marks (c :: r).length
  refine ⟨m₄, ?_⟩
  have hfuel : (a ++ c :: r).length + 1 = (c :: r).length + 1 + a.length := by
    rw [List.length_append]
    omega
  rw [hm₁, hfuel, hm₂, hm₄]

/-! ## Only forward -/

/-- An attempt that, if it matches, ends behind a text. -/
def Attempt.Passes (l : Text) : Attempt → Prop
  | .matched m => l <+: m.place.passed.reverse
  | .failed _ => True

theorem Attempt.Passes.orElse {a : Attempt} {other : Memory → Attempt} (ha : a.Passes l)
    (ho : ∀ m, (other m).Passes l) : (a.orElse other).Passes l := by
  cases a with
  | matched m => exact ha
  | failed m => exact ho m

/-- A goal that does not go back before the end of a text. -/
def Goal.Forward (l : Text) (k : Goal) : Prop :=
  ∀ x r m, (k (.between (l ++ x) r) m).Passes l

theorem Goal.forward_done (l : Text) : Goal.done.Forward l := by
  intro x r m
  simp [done, Attempt.Passes, Memory.visit, Place.between]

/-- The steps that are seen to move only forward: characters, marks and greedy runs. -/
def movesForward : Step → Bool
  | .one _ | .mark .. | .repeated 0 none .greedy [.one _] => true
  | _ => false

theorem giveBack_passes (hk : k.Forward l) (literal : Option Nat) (marks : List (Option Place))
    (x a r : Text) (m : Memory) :
    (giveBack looped literal k marks a.length (.between (l ++ x ++ a) r) m).Passes l := by
  have hattempt : ∀ a r (m : Memory),
      (if literal.all fun n => ((Place.between (l ++ x ++ a) r).ahead.head?.map Char.toNat) == some n
        then (k (.between (l ++ x ++ a) r) (m.visit (.between (l ++ x ++ a) r))).orElse
          fun m => .failed (m.restore looped marks)
        else .failed m).Passes l := by
    intro a r m
    split
    · rw [List.append_assoc]
      exact (hk _ _ _).orElse fun m => trivial
    · trivial
  induction a using List.reverseRecOn generalizing r m with
  | nil =>
    rw [List.length_nil, giveBack]
    exact (hattempt [] r m).orElse fun m => trivial
  | append_singleton a c ih =>
    rw [List.length_append, List.length_singleton, giveBack, ← List.append_assoc,
      Place.prev_between, List.append_assoc]
    exact (hattempt (a ++ [c]) r m).orElse fun m => ih (c :: r) m

theorem runStep_forward (hk : k.Forward l) {step : Step} (hstep : movesForward step = true)
    (literal : Option Nat) : (runStep looped literal step k).Forward l := by
  intro x r m
  unfold movesForward at hstep
  split at hstep
  next set =>
    rw [runStep_one]
    cases r with
    | nil => trivial
    | cons c r =>
      rw [Place.next_between, List.append_assoc]
      dsimp only [Place.between]
      split
      · exact hk (x ++ [c]) r m
      · trivial
  next group atEnd =>
    rw [runStep_mark]
    exact hk x r _
  next set =>
    obtain ⟨m', hm'⟩ := runSingle_greedy looped set literal k (l ++ x) r m
    rw [runStep_single, hm']
    exact giveBack_passes hk literal _ x _ _ m'
  next => cases hstep

theorem run_forward (hk : k.Forward l) {p : Pattern} (hp : p.all movesForward = true) :
    (run looped p k).Forward l := by
  induction p with
  | nil =>
    rw [run_nil]
    exact hk
  | cons step p ih =>
    rw [List.all_cons, Bool.and_eq_true] at hp
    rw [run_cons]
    exact runStep_forward (ih hp.2) hp.1 _

/-! ## Repetitions that may be left out -/

theorem iterate_forward {body : Goal → Goal}
    (hbody : ∀ k : Goal, k.Forward l → (body k).Forward l) (hk : k.Forward l)
    (isLazy : Bool) (fuel lo : Nat) (hi last : Option Nat) :
    (iterate looped body isLazy k fuel lo hi last).Forward l := by
  have hfail : ∀ s (m : Memory), (Attempt.failed (m.visit s)).Passes l := fun _ _ => trivial
  induction fuel generalizing lo hi last with
  | zero => exact fun x r m => trivial
  | succ fuel ih =>
    intro x r m
    cases lo with
    | succ lo =>
      rw [iterate]
      exact (hbody _ (ih _ _ _) x r _).orElse (hfail _)
    | zero =>
      rw [iterate]
      dsimp only
      split
      · refine (hk x r _).orElse fun m => ?_
        split
        · trivial
        · exact (hbody _ (ih _ _ _) x r _).orElse (hfail _)
      · split
        · exact (hk x r _).orElse (hfail _)
        · exact (hbody _ (ih _ _ _) x r _).orElse fun m => (hk x r _).orElse (hfail _)

/-- A repetition that may be left out matches where it is the end of the pattern. -/
theorem exists_iterate (body : Goal → Goal) (fuel : Nat) (hi last : Option Nat) (s : Place)
    (m : Memory) :
    ∃ m', iterate looped body false .done (fuel + 1) 0 hi last s m = .matched m' := by
  rw [iterate]
  dsimp only
  rw [if_neg (by simp)]
  split
  · exact ⟨_, rfl⟩
  · generalize body _ s (m.visit s) = attempt
    cases attempt with
    | matched m => exact ⟨m, rfl⟩
    | failed m => exact ⟨_, rfl⟩

/-- A repetition that may be left out matches at the end of a pattern, and what it covers is no
text before its start. -/
theorem exists_run_optional (looped : Bool) {body : Pattern} (hne : ∀ set, body ≠ [.one set])
    (hbody : body.all movesForward = true) (hi : Option Nat) (l r : Text) (m : Memory) :
    ∃ m', run looped [.repeated 0 hi .greedy body] .done (.between l r) m = .matched m' ∧
      l <+: m'.place.passed.reverse := by
  obtain ⟨m', hm'⟩ : ∃ m', iterate looped (run true body) false .done (0 + r.length + 2) 0 hi none
      (.between l r) (m.visit (.between l r)) = .matched m' := exists_iterate _ _ _ _ _ _
  have hforward : (iterate looped (run true body) false .done (0 + r.length + 2) 0 hi none).Forward
      l := iterate_forward (fun k hk => run_forward hk hbody) (Goal.forward_done l) _ _ _ _ _
  refine ⟨m', ?_, ?_⟩
  · rw [run_cons, runStep]
    · rw [if_neg (by simp), run_nil]
      exact hm'
    · exact hne
  · have hpasses := hforward [] r (m.visit (.between l r))
    rw [List.append_nil, hm'] at hpasses
    exact hpasses

end Letterhead.Pattern

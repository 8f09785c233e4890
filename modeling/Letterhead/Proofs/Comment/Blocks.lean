import Letterhead.Proofs.Comment.Below

/-
  Blocks of a token list. Where a block begins no region is open (`depthAfter_take_blocks`), and
  the tokens from there on have the remaining blocks as their own (`blocksOf_drop`). Tokens that
  are joined keep the blocks of the first part, of which the last goes on into the second part up
  to the first token that opens a block there (`blocksOf_append`).
-/

namespace Letterhead.Comment

variable {l l' : LineState} {t u : Token} {ts us : List Token}

namespace LineState

/-- The state after a list of tokens. -/
def afterAll (l : LineState) (ts : List Token) : LineState := ts.foldl after l

@[simp] theorem afterAll_nil : l.afterAll [] = l := rfl

@[simp] theorem afterAll_cons : l.afterAll (t :: ts) = (l.after t).afterAll ts := rfl

@[simp] theorem afterAll_append : l.afterAll (ts ++ us) = (l.afterAll ts).afterAll us := by
  simp [afterAll]

theorem after_depth (l : LineState) (t : Token) :
    (l.after t).depth = t.kind.depthAfter l.depth := by
  obtain ⟨gap, kind, body⟩ := t
  cases kind <;> rfl

theorem afterAll_depth (l : LineState) (ts : List Token) :
    (l.afterAll ts).depth = depthAfter l.depth ts := by
  induction ts generalizing l with
  | nil => rfl
  | cons t ts ih => rw [afterAll_cons, ih, after_depth, depthAfter_cons]

theorem opens_iff : l.opens t = true ↔
    t.kind.isBlank = false ∧ l.fresh = true ∧ l.afterBlank = true ∧ l.depth = 0 := by
  obtain ⟨gap, kind, body⟩ := t
  cases kind <;> simp [opens, Kind.isBlank, and_assoc]

/-- After a construct only the number of open regions is left of the state before it. -/
theorem after_construct (hk : t.kind.isBlank = false) (hd : l.depth = l'.depth) :
    l.after t = l'.after t := by
  obtain ⟨gap, kind, body⟩ := t
  cases kind <;> simp_all [after, Kind.isBlank]

/-- At the start of a text nothing opens a further block. -/
theorem opens_start (t : Token) : LineState.opens {} t = false := by
  simp [opens]

end LineState

/-! ## Cuts -/

theorem cutBlocks_cons_of_opens (h : l.opens t = true) :
    cutBlocks l (t :: ts) =
      ([], (t :: (cutBlocks (l.after t) ts).1) :: (cutBlocks (l.after t) ts).2) := by
  simp [cutBlocks, h]

theorem cutBlocks_cons_of_not_opens (h : l.opens t = false) :
    cutBlocks l (t :: ts) =
      (t :: (cutBlocks (l.after t) ts).1, (cutBlocks (l.after t) ts).2) := by
  simp [cutBlocks, h]

theorem blocksOf_cons (t : Token) (ts : List Token) :
    blocksOf (t :: ts) = (cutBlocks {} (t :: ts)).1 :: (cutBlocks {} (t :: ts)).2 := by
  unfold blocksOf
  rw [cutBlocks_cons_of_not_opens (LineState.opens_start t)]

theorem blocksOf_nil : blocksOf [] = [] := rfl

/-- Tokens that begin with one that opens a block have the blocks that they have by themselves. -/
theorem cutBlocks_of_opens (h : l.opens t = true) :
    cutBlocks l (t :: ts) = ([], blocksOf (t :: ts)) := by
  obtain ⟨hk, -, -, hd⟩ := LineState.opens_iff.1 h
  have hstart : LineState.after {} t = l.after t := LineState.after_construct hk hd.symm
  rw [cutBlocks_cons_of_opens h, blocksOf_cons,
    cutBlocks_cons_of_not_opens (LineState.opens_start t), hstart]

/-- Where the tokens are cut, no region is open. -/
theorem depthAfter_take_cut (n : Nat) (h : depthAfter l.depth ts = 0) :
    depthAfter l.depth ((cutBlocks l ts).1 ++ ((cutBlocks l ts).2.take n).flatten) = 0 := by
  induction ts generalizing l n with
  | nil => simpa [cutBlocks] using h
  | cons t ts ih =>
    rw [depthAfter_cons, ← LineState.after_depth] at h
    cases ho : l.opens t with
    | true =>
      rw [cutBlocks_cons_of_opens ho]
      cases n with
      | zero => exact (LineState.opens_iff.1 ho).2.2.2
      | succ n =>
        have := ih n h
        rw [LineState.after_depth] at this
        simpa using this
    | false =>
      rw [cutBlocks_cons_of_not_opens ho]
      have := ih n h
      rw [LineState.after_depth] at this
      simpa using this

theorem depthAfter_take_blocks (n : Nat) (h : depthAfter 0 ts = 0) :
    depthAfter 0 ((blocksOf ts).take n).flatten = 0 := by
  cases ts with
  | nil => simp [blocksOf_nil]
  | cons t ts =>
    rw [blocksOf_cons]
    cases n with
    | zero => rfl
    | succ n =>
      have := depthAfter_take_cut (l := {}) n h
      simpa using this

theorem blocksOf_drop_cut (l : LineState) (ts : List Token) (n : Nat) :
    blocksOf ((cutBlocks l ts).2.drop n).flatten = (cutBlocks l ts).2.drop n := by
  induction ts generalizing l n with
  | nil => simp [cutBlocks, blocksOf_nil]
  | cons t ts ih =>
    cases ho : l.opens t with
    | true =>
      cases n with
      | zero =>
        have hflat := cutBlocks_flatten l (t :: ts)
        rw [cutBlocks_of_opens ho] at hflat ⊢
        rw [List.drop_zero, blocksOf_flatten]
      | succ n =>
        rw [cutBlocks_cons_of_opens ho, List.drop_succ_cons]
        exact ih _ n
    | false =>
      rw [cutBlocks_cons_of_not_opens ho]
      exact ih _ n

/-- Without their first blocks the tokens have the other blocks. -/
theorem blocksOf_drop (ts : List Token) (n : Nat) :
    blocksOf ((blocksOf ts).drop n).flatten = (blocksOf ts).drop n := by
  cases n with
  | zero => rw [List.drop_zero, blocksOf_flatten]
  | succ n =>
    cases ts with
    | nil => simp [blocksOf_nil]
    | cons t ts =>
      rw [blocksOf_cons, List.drop_succ_cons]
      exact blocksOf_drop_cut _ _ n

/-! ## Joins -/

/-- A token before others joins their first block, whether or not it opens that block. What this
does to the blocks before a given one does not depend on that block and on those behind it. -/
theorem exists_cut_cons (l : LineState) (t : Token) (first : List (List Token)) :
    ∃ first' front, ∀ {ts last later},
      (cutBlocks (l.after t) ts).1 :: (cutBlocks (l.after t) ts).2 = first ++ last :: later →
      (cutBlocks l (t :: ts)).1 :: (cutBlocks l (t :: ts)).2 =
        first' ++ (front ++ last) :: later := by
  have hjoin : ∃ first' front, ∀ {ts last later},
      (cutBlocks (l.after t) ts).1 :: (cutBlocks (l.after t) ts).2 = first ++ last :: later →
      (t :: (cutBlocks (l.after t) ts).1) :: (cutBlocks (l.after t) ts).2 =
        first' ++ (front ++ last) :: later := by
    cases first with
    | nil =>
      refine ⟨[], [t], fun h => ?_⟩
      simp only [List.nil_append, List.cons.injEq] at h
      rw [h.1, h.2]
      rfl
    | cons head first =>
      refine ⟨(t :: head) :: first, [], fun h => ?_⟩
      simp only [List.cons_append, List.cons.injEq] at h
      rw [h.1, h.2]
      rfl
  obtain ⟨first', front, hjoin⟩ := hjoin
  cases ho : l.opens t with
  | true =>
    refine ⟨[] :: first', front, fun h => ?_⟩
    rw [cutBlocks_cons_of_opens ho]
    exact congrArg (List.cons []) (hjoin h)
  | false =>
    refine ⟨first', front, fun h => ?_⟩
    rw [cutBlocks_cons_of_not_opens ho]
    exact hjoin h

theorem cutBlocks_append (l : LineState) (ts us : List Token) :
    ∃ first last, (cutBlocks l ts).1 :: (cutBlocks l ts).2 = first ++ [last] ∧
      (cutBlocks l (ts ++ us)).1 :: (cutBlocks l (ts ++ us)).2 =
        first ++ (last ++ (cutBlocks (l.afterAll ts) us).1) :: (cutBlocks (l.afterAll ts) us).2 := by
  induction ts generalizing l with
  | nil => exact ⟨[], [], rfl, rfl⟩
  | cons t ts ih =>
    obtain ⟨first, last, hts, hall⟩ := ih (l.after t)
    obtain ⟨first', front, hcut⟩ := exists_cut_cons l t first
    refine ⟨first', front ++ last, hcut hts, ?_⟩
    rw [List.cons_append, hcut hall, LineState.afterAll_cons, List.append_assoc]

/-- The last block of the first tokens goes on into those behind them. -/
theorem blocksOf_append (hts : ts ≠ []) (us : List Token) :
    ∃ first last, blocksOf ts = first ++ [last] ∧
      blocksOf (ts ++ us) = first ++ (last ++ (cutBlocks (LineState.afterAll {} ts) us).1) ::
        (cutBlocks (LineState.afterAll {} ts) us).2 := by
  obtain ⟨first, last, h, hall⟩ := cutBlocks_append {} ts us
  cases ts with
  | nil => exact absurd rfl hts
  | cons t ts =>
    refine ⟨first, last, ?_, ?_⟩
    · rw [blocksOf_cons, h]
    · rw [List.cons_append, blocksOf_cons, ← List.cons_append, hall]

/-- A block after the first begins with a construct. -/
theorem exists_construct_of_mem_cut {l : LineState} {ts b : List Token}
    (h : b ∈ (cutBlocks l ts).2) : ∃ t b', b = t :: b' ∧ t.kind.isBlank = false := by
  induction ts generalizing l with
  | nil => simp [cutBlocks] at h
  | cons t ts ih =>
    cases ho : l.opens t with
    | true =>
      rw [cutBlocks_cons_of_opens ho, List.mem_cons] at h
      rcases h with rfl | h
      · exact ⟨t, _, rfl, (LineState.opens_iff.1 ho).1⟩
      · exact ih h
    | false =>
      rw [cutBlocks_cons_of_not_opens ho] at h
      exact ih h

/-- The last of several blocks begins with a construct. -/
theorem exists_construct_of_last {first : List (List Token)} {last : List Token}
    (h : blocksOf ts = first ++ [last]) (hne : first ≠ []) :
    ∃ t b, last = t :: b ∧ t.kind.isBlank = false := by
  cases ts with
  | nil => simp [blocksOf_nil] at h
  | cons t ts =>
    rw [blocksOf_cons] at h
    cases first with
    | nil => exact absurd rfl hne
    | cons b first =>
      rw [List.cons_append, List.cons.injEq] at h
      exact exists_construct_of_mem_cut (h.2 ▸ List.mem_append_right first List.mem_cons_self)

end Letterhead.Comment

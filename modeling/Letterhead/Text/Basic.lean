/-
  Text as a list of characters: the cuts, searches and joins that the rest of the library is
  built from. A search says what it found by the pieces around it, so offsets stay out of the
  definitions; `after?_eq_some_iff` and `eq_of_cutAt?` tie the pieces back to the text.
-/

namespace Letterhead

/-- A text is the list of its characters; lengths and offsets count them. Surrogates that stand
alone are no characters: no text holds them, and `CodePoint` stands for what may. -/
abbrev Text := List Char

namespace Text

/-! ## Leading and trailing pieces -/

/-- What follows `mark` in a text that begins with it. -/
def after? : (mark s : Text) → Option Text
  | [], s => some s
  | _ :: _, [] => none
  | m :: mark, c :: s => if m = c then after? mark s else none

theorem after?_append (mark s : Text) : after? mark (mark ++ s) = some s := by
  induction mark with
  | nil => rfl
  | cons m mark ih => simp [after?, ih]

theorem eq_of_after? {mark s r : Text} (h : after? mark s = some r) : s = mark ++ r := by
  induction mark generalizing s with
  | nil => simpa [after?] using h
  | cons m mark ih =>
    cases s with
    | nil => simp [after?] at h
    | cons c s =>
      by_cases hc : m = c
      · simp only [after?, hc, if_true] at h
        simp [hc, ih h]
      · simp [after?, hc] at h

theorem after?_eq_some_iff {mark s r : Text} : after? mark s = some r ↔ s = mark ++ r :=
  ⟨eq_of_after?, fun h => h ▸ after?_append mark r⟩

/-- Whether a text begins with `mark`. -/
def beginsWith (mark s : Text) : Bool := (after? mark s).isSome

/-- Whether a text ends with `mark`. -/
def endsWith (mark s : Text) : Bool := beginsWith mark.reverse s.reverse

/-! ## Searching -/

/-- The text before and after the first occurrence of `mark`. -/
def cutAt? (mark : Text) : Text → Option (Text × Text)
  | [] => if mark = [] then some ([], []) else none
  | c :: s =>
    match after? mark (c :: s) with
    | some r => some ([], r)
    | none => (cutAt? mark s).map fun (l, r) => (c :: l, r)

theorem eq_of_cutAt? {mark s l r : Text} (h : cutAt? mark s = some (l, r)) :
    s = l ++ mark ++ r := by
  induction s generalizing l r with
  | nil =>
    by_cases hm : mark = []
    · simp only [cutAt?, hm, if_true, Option.some.injEq, Prod.mk.injEq] at h
      simp [hm, ← h.1, ← h.2]
    · simp [cutAt?, hm] at h
  | cons c s ih =>
    unfold cutAt? at h
    split at h
    next r' hr =>
      simp only [Option.some.injEq, Prod.mk.injEq] at h
      rw [← h.1, ← h.2]
      simpa using eq_of_after? hr
    next =>
      obtain ⟨⟨l', r'⟩, hl, he⟩ := Option.map_eq_some_iff.1 h
      simp only [Prod.mk.injEq] at he
      rw [← he.1, ← he.2, ih hl]
      simp

/-- Whether `mark` occurs in a text. -/
def hasPart (mark s : Text) : Bool := (cutAt? mark s).isSome

/-! ## Replacing and splitting -/

/-- One pass from left to right that writes `value` for each occurrence of `mark`; the number
counts the characters of the last occurrence that are still to be passed over. -/
def replaceFrom (mark value : Text) : Nat → Text → Text
  | _, [] => []
  | skip + 1, _ :: s => replaceFrom mark value skip s
  | 0, c :: s =>
    if beginsWith mark (c :: s) then value ++ replaceFrom mark value (mark.length - 1) s
    else c :: replaceFrom mark value 0 s

/-- Replace every occurrence of `mark`, from left to right and without overlaps. The empty mark
occurs before every character and at the end. -/
def replaceAll (mark value s : Text) : Text :=
  if mark = [] then s.flatMap (fun c => value ++ [c]) ++ value else replaceFrom mark value 0 s

/-- The pieces between the occurrences of a mark; see `replaceFrom` for the number. -/
def splitFrom (mark : Text) : Nat → Text → Text × List Text
  | _, [] => ([], [])
  | skip + 1, _ :: s => splitFrom mark skip s
  | 0, c :: s =>
    if beginsWith mark (c :: s) then
      let (p, ps) := splitFrom mark (mark.length - 1) s
      ([], p :: ps)
    else
      let (p, ps) := splitFrom mark 0 s
      (c :: p, ps)

/-- The pieces of a text between the occurrences of `mark`, which is taken to be non-empty. -/
def splitOn (mark s : Text) : List Text :=
  let (p, ps) := splitFrom mark 0 s
  p :: ps

/-- The texts with `sep` between each two. -/
def joinWith (sep : Text) (parts : List Text) : Text := sep.intercalate parts

/-- The order of texts: by code points, and a text before its continuations. -/
def notAfter : Text → Text → Bool
  | [], _ => true
  | _ :: _, [] => false
  | c :: a, d :: b => c.toNat < d.toNat || (c == d && notAfter a b)

end Text

/-! ## The best of several candidates -/

/-- The earliest of the entries of greatest size. -/
def firstLargest? {α : Type} (size : α → Nat) : List α → Option α
  | [] => none
  | x :: xs =>
    match firstLargest? size xs with
    | some y => if size x < size y then some y else some x
    | none => some x

theorem firstLargest?_eq_none_iff {α : Type} {size : α → Nat} {xs : List α} :
    firstLargest? size xs = none ↔ xs = [] := by
  cases xs with
  | nil => simp [firstLargest?]
  | cons x xs =>
    simp only [firstLargest?, reduceCtorEq, iff_false]
    split
    · split <;> simp
    · simp

theorem mem_of_firstLargest? {α : Type} {size : α → Nat} {xs : List α} {x : α}
    (h : firstLargest? size xs = some x) : x ∈ xs := by
  induction xs with
  | nil => simp [firstLargest?] at h
  | cons y xs ih =>
    simp only [firstLargest?] at h
    split at h
    next z hz =>
      split at h
      · exact List.mem_cons_of_mem _ (ih (hz.trans h))
      · simp_all
    next => simp_all

end Letterhead

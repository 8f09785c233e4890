import Letterhead.Pattern.Basic

/-
  Matching a pattern at the start of a text. An attempt tries the ways to match in order of
  preference and stops at the first that lets the rest of the pattern match; what is still to be
  matched is a goal. An attempt that fails leaves a memory behind, too: how far it came, which
  decides where a possessive repetition ends, and the marks that were not taken back.
  `Pattern.cutStart?` cuts a text just past the match at its start.
-/

namespace Letterhead.Pattern

/-- A place in the text: its distance from the start, the characters before it backwards, and those
from it on. -/
structure Place where
  index : Nat
  passed : Text
  ahead : Text

namespace Place

def start (s : Text) : Place := ⟨0, [], s⟩

/-- The place one character further on. -/
def next (s : Place) : Place :=
  match s.ahead with
  | c :: r => ⟨s.index + 1, c :: s.passed, r⟩
  | [] => s

/-- The place one character before. -/
def prev (s : Place) : Place :=
  match s.passed with
  | c :: r => ⟨s.index - 1, r, c :: s.ahead⟩
  | [] => s

def skip : Nat → Place → Place
  | 0, s => s
  | n + 1, s => skip n s.next

def back : Nat → Place → Place
  | 0, s => s
  | n + 1, s => back n s.prev

/-- Whether at least `n` characters are ahead. -/
def hasAhead (n : Nat) (s : Place) : Bool := n ≤ (s.ahead.take n).length

/-- Whether an anchor holds at a place. A text without characters has no word edge and no place
that is none. -/
def holds (s : Place) : Anchor → Bool
  | .textStart => s.passed == []
  | .lineStart => s.passed == [] || s.passed.head? == some '\n'
  | .textEnd => s.ahead == []
  | .lineEnd => s.ahead == [] || s.ahead.head? == some '\n'
  | .lastLineEnd => s.ahead == [] || s.ahead == ['\n']
  | .wordEdge negated ascii =>
    let word := fun c => CharClass.word.contains ascii c
    !(s.passed == [] && s.ahead == []) &&
      (s.passed.head?.any word != s.ahead.head?.any word) != negated

end Place

/-! ## Memory -/

/-- What an attempt remembers: the place it looked at last, and the marks of the groups, two for
each; marks beyond the list were never set. -/
structure Memory where
  place : Place
  marks : List (Option Place)

namespace Memory

/-- Look at a place. -/
def visit (m : Memory) (s : Place) : Memory := { m with place := s }

/-- Set the mark at a position of the list, which grows as needed. -/
def setMark (n : Nat) (s : Place) (m : Memory) : Memory :=
  if n < m.marks.length then { m with marks := m.marks.set n s }
  else { m with marks := m.marks ++ List.replicate (n - m.marks.length) none ++ [some s] }

/-- The position of a mark. -/
def markIndex (group : Nat) (atEnd : Bool) : Nat := 2 * (group - 1) + atEnd.toNat

/-- Go back to earlier marks. Outside of repetitions only the marks set since then are dropped, so
that an earlier mark that was set again keeps its new place. -/
def restore (looped : Bool) (marks : List (Option Place)) (m : Memory) : Memory :=
  { m with marks := if looped then marks else m.marks.take marks.length }

/-- The text between the marks of a group. -/
def captured? (m : Memory) (group : Nat) : Option Text := do
  let first ← (← m.marks[markIndex group false]?)
  let last ← (← m.marks[markIndex group true]?)
  if last.index < first.index then none else some (first.ahead.take (last.index - first.index))

end Memory

/-- How an attempt ends. -/
inductive Attempt where
  | matched (m : Memory)
  | failed (m : Memory)

/-- What is left to match from a place on. -/
abbrev Goal := Place → Memory → Attempt

namespace Goal

/-- Nothing is left. -/
def done : Goal := fun s m => .matched (m.visit s)

end Goal

/-- The attempt, or else another one with the memory it leaves behind. -/
def Attempt.orElse (a : Attempt) (other : Memory → Attempt) : Attempt :=
  match a with
  | .matched m => .matched m
  | .failed m => other m

/-! ## Runs of single characters -/

/-- How many characters at the start of a text pass a test, up to a bound. -/
def countUpTo (set : CharSet) : Option Nat → Text → Nat
  | some 0, _ | _, [] => 0
  | hi, c :: s => if set.contains c then countUpTo set (hi.map (· - 1)) s + 1 else 0

/-- The memory after a run of `n` characters from a place was counted. -/
def afterCount (set : CharSet) (n : Nat) (s : Place) (m : Memory) : Memory :=
  m.visit (if set.isStepwise then s.skip n else s)

/-- Try a goal at a place and then at up to `n` places before it. A literal that the goal begins
with rules out the places where it does not come next. -/
def giveBack (looped : Bool) (literal : Option Nat) (k : Goal) (marks : List (Option Place)) :
    Nat → Place → Memory → Attempt
  | n, s, m =>
    let attempt :=
      if literal.all fun l => (s.ahead.head?.map Char.toNat) == some l then
        (k s (m.visit s)).orElse fun m => .failed (m.restore looped marks)
      else .failed m
    attempt.orElse fun m =>
      match n with
      | 0 => .failed m
      | n + 1 => giveBack looped literal k marks n s.prev m

/-- Try a goal at a place and then, as long as the characters pass a test, after each of up to `hi`
more of them. The number bounds the tries. -/
def takeMore (looped : Bool) (set : CharSet) (k : Goal) (marks : List (Option Place)) :
    Nat → Option Nat → Place → Memory → Attempt
  | 0, _, _, m => .failed m
  | fuel + 1, hi, s, m =>
    (k s (m.visit s)).orElse fun m =>
      let n := countUpTo set (some 1) s.ahead
      let m := afterCount set n s (m.restore looped marks)
      if n = 0 ∨ hi = some 0 then .failed m
      else takeMore looped set k marks fuel (hi.map (· - 1)) s.next m

/-- A repetition of a single character. -/
def runSingle (looped : Bool) (set : CharSet) (lo : Nat) (hi : Option Nat) (greed : Greed)
    (literal : Option Nat) (k : Goal) : Goal := fun s m =>
  if !s.hasAhead lo then .failed m
  else
    let n := countUpTo set (if greed = .lazy then some lo else hi) s.ahead
    let m := afterCount set n s m
    if n < lo then .failed m
    else
      match greed with
      | .greedy => giveBack looped literal k m.marks (n - lo) (s.skip n) m
      | .lazy =>
        takeMore looped set k m.marks (s.ahead.length + 1) (hi.map (· - lo)) (s.skip n) m
      | .possessive => k (s.skip n) m

/-! ## Repetitions -/

/-- Match a body between `lo` and `hi` times. Beyond the least number a repetition that covers
nothing is the last one: `last` is the index where the previous one began. The first number bounds
the rounds. -/
def iterate (looped : Bool) (body : Goal → Goal) (isLazy : Bool) (k : Goal) :
    Nat → Nat → Option Nat → Option Nat → Goal
  | 0, _, _, _, _, m => .failed m
  | fuel + 1, lo + 1, hi, last, s, m =>
    (body (iterate looped body isLazy k fuel lo (hi.map (· - 1)) last) s (m.visit s)).orElse
      fun m => .failed (m.visit s)
  | fuel + 1, 0, hi, last, s, m =>
    let marks := m.marks
    let finish := fun m => (k s m).orElse fun m => .failed (m.visit s)
    let more := fun (m : Memory) =>
      body (iterate looped body isLazy k fuel 0 (hi.map (· - 1)) (some s.index)) s m
    let isLast := hi = some 0 ∨ last = some s.index
    if isLazy then
      (k s (m.visit s)).orElse fun m =>
        let m := (m.restore looped marks).visit s
        if isLast then .failed m else (more m).orElse fun m => .failed (m.visit s)
    else if isLast then finish (m.visit s)
    else (more (m.visit s)).orElse fun m => finish { m with marks, place := s }

/-- Match a body as often as it goes, between `lo` and `hi` times, each time on its own. Where it
goes no further the repetition ends at the place that the body looked at last, as it does in the
engine that skip patterns are written for. To end where the body matched last is what an atomic step
around a greedy repetition does, which is a pattern too. The first number bounds the rounds. -/
def exhaust (body : Goal) (start : Place) (k : Goal) : Nat → Nat → Option Nat → Memory → Attempt
  | 0, _, _, m => .failed m
  | fuel + 1, lo + 1, hi, m =>
    match body m.place m with
    | .matched m => exhaust body start k fuel lo (hi.map (· - 1)) m
    | .failed m => .failed (m.visit start)
  | fuel + 1, 0, hi, m =>
    if hi = some 0 then k m.place m
    else
      match body m.place m with
      | .matched n =>
        if n.place.index = m.place.index then k n.place n
        else exhaust body start k fuel 0 (hi.map (· - 1)) n
      | .failed n => k n.place { n with marks := m.marks }

/-- The number of rounds that a repetition from a place on can take. -/
def rounds (lo : Nat) (s : Place) : Nat := lo + s.ahead.length + 2

/-! ## Patterns -/

/-- Match a text as it is, or without regard to case. -/
def runText (rule : CaseRule) (k : Goal) : Text → Goal
  | [], s, m => k s m
  | d :: t, s, m =>
    match s.ahead with
    | c :: _ => if rule.lower c = rule.lower d then runText rule k t s.next m else .failed m
    | [] => .failed m

/-- Whether a pattern may match at a place as far as a glance tells. -/
def mayBegin (p : List Step) (s : Place) : Bool :=
  match p with
  | .one set :: _ => !set.isQuick || s.ahead.head?.any set.contains
  | _ => true

/-- The literal that a pattern begins with. -/
def leading? : List Step → Option Nat
  | .one set :: _ => set.literal?
  | _ => none

mutual

/-- Take the steps of a pattern and then go for the goal; `looped` tells whether that is inside of
a repetition. -/
def run (looped : Bool) : List Step → Goal → Goal
  | [], k => k
  | step :: p, k => runStep looped (leading? p) step (run looped p k)

/-- Take a step; `literal` is what has to come right after it, if that is known. -/
def runStep (looped : Bool) (literal : Option Nat) : Step → Goal → Goal
  | .one set, k, s, m =>
    match s.ahead with
    | c :: _ => if set.contains c then k s.next m else .failed m
    | [] => .failed m
  | .anchor a, k, s, m => if s.holds a then k s m else .failed m
  | .mark group atEnd, k, s, m => k s (m.setMark (Memory.markIndex group atEnd) s)
  | .choice ps, k, s, m => runChoice looped ps k m.marks s m
  | .repeated lo hi greed [.one set], k, s, m => runSingle looped set lo hi greed literal k s m
  | .repeated lo hi greed p, k, s, m =>
    if greed = .possessive then
      exhaust (run looped p .done) s k (rounds lo s) lo hi (m.visit s)
    else
      iterate looped (run true p) (greed = .lazy) k (rounds lo s) lo hi none s (m.visit s)
  | .backref group rule, k, s, m =>
    match m.captured? group with
    | some t => runText rule k t s m
    | none => .failed m
  | .look negated behind p, k, s, m =>
    if s.index < behind then if negated then k s m else .failed m
    else
      match run looped p .done (s.back behind) (m.visit (s.back behind)), negated with
      | .matched n, false => k s n
      | .failed n, true => k s (n.restore looped m.marks)
      | .matched n, true | .failed n, false => .failed n
  | .atomic p, k, s, m =>
    match run looped p .done s (m.visit s) with
    | .matched n => k n.place n
    | .failed n => .failed (n.visit s)
  | .ifGroup group p q, k, s, m =>
    if (m.captured? group).isSome then run looped p k s m else run looped q k s m

/-- Take the first of some patterns that lets the goal succeed. -/
def runChoice (looped : Bool) : List (List Step) → Goal → List (Option Place) → Goal
  | [], _, _, _, m => .failed m
  | p :: ps, k, marks, s, m =>
    if mayBegin p s then
      (run looped p k s (m.visit s)).orElse fun m =>
        runChoice looped ps k marks s (m.restore looped marks)
    else runChoice looped ps k marks s m

end

theorem run_nil (looped : Bool) (k : Goal) : run looped [] k = k := rfl

theorem run_cons (looped : Bool) (step : Step) (p : Pattern) (k : Goal) :
    run looped (step :: p) k = runStep looped (leading? p) step (run looped p k) := rfl

theorem runStep_one (looped : Bool) (literal : Option Nat) (set : CharSet) (k : Goal) (s : Place)
    (m : Memory) :
    runStep looped literal (.one set) k s m =
      match s.ahead with
      | c :: _ => if set.contains c then k s.next m else .failed m
      | [] => .failed m := rfl

theorem runStep_mark (looped : Bool) (literal : Option Nat) (group : Nat) (atEnd : Bool) (k : Goal)
    (s : Place) (m : Memory) :
    runStep looped literal (.mark group atEnd) k s m =
      k s (m.setMark (Memory.markIndex group atEnd) s) := rfl

theorem runStep_single (looped : Bool) (literal : Option Nat) (lo : Nat) (hi : Option Nat)
    (greed : Greed) (set : CharSet) (k : Goal) (s : Place) (m : Memory) :
    runStep looped literal (.repeated lo hi greed [.one set]) k s m =
      runSingle looped set lo hi greed literal k s m := rfl

/-- The text covered by the match at the start of a text, and what follows it. -/
def cutStart? (p : Pattern) (s : Text) : Option (Text × Text) :=
  match run false p .done (.start s) ⟨.start s, []⟩ with
  | .matched m => some (m.place.passed.reverse, m.place.ahead)
  | .failed _ => none

end Letterhead.Pattern

import Letterhead.Pattern.Leaf

/-
  Reading a pattern from its written form: literals, classes, groups, alternatives, greedy, lazy
  and possessive repetitions, look-around, back references, conditionals and inline flags. A
  sequence is read as parts, since alternatives that begin with the same step share it.
  `Pattern.ofText` ignores the case of letters unless the pattern turns that off.
-/

namespace Letterhead.Pattern

/-! ## Parts of a sequence -/

/-- A part of a sequence: a single step, a repetition, or a pattern that stays as it is. -/
inductive Part where
  | step (s : Step)
  | again (s : Step)
  | sealed (p : Pattern)

def Part.steps : Part → Pattern
  | step s | again s => [s]
  | sealed p => p

/-- The pattern that parts give. -/
def stepsOf (ps : List Part) : Pattern := ps.flatMap Part.steps

/-- An item of a sequence that is being read: a part, or the parts of a group that only holds them
together. -/
inductive Item where
  | part (p : Part)
  | group (ps : List Part)

def Item.parts : Item → List Part
  | part p => [p]
  | group ps => ps

/-- What a repetition of an item repeats; places and repetitions are not repeated. -/
def Item.body? : Item → Option Pattern
  | part (.step (.anchor _)) | part (.again _) => none
  | part p => some p.steps
  | group ps => some (stepsOf ps)

/-! ## Alternatives -/

/-- Whether parts begin with a step. -/
def beginsWith (s : Step) : List Part → Bool
  | .step t :: _ => s = t
  | _ => false

/-- Cut off the steps that all of some alternatives begin with; the first one is given apart. -/
def cutCommon : List Part → List (List Part) → List Part × List (List Part)
  | .step s :: p, ps =>
    if ps.all (beginsWith s) then
      let (common, rest) := cutCommon p (ps.map List.tail)
      (.step s :: common, rest)
    else ([], (.step s :: p) :: ps)
  | p, ps => ([], p :: ps)

/-- The items of an alternative that is a test for one character and asks for one of them. -/
def itemsOf? : List Part → Option (List CharItem)
  | [.step (.one (.char false _ n))] => some [.char n]
  | [.step (.one (.anyOf false _ items))] => some items
  | _ => none

/-- The parts that alternatives give: what they share comes first, and where each asks for one of
some characters the rest is a single test. -/
def alternativesOf (rule : CaseRule) : List (List Part) → List Part
  | [] => []
  | [p] => p
  | p :: ps =>
    let (common, rest) := cutCommon p ps
    match rest.mapM itemsOf? with
    | some items => common ++ [.step (.one (.ofItems false rule items.flatten.eraseDups))]
    | none => common ++ [.sealed [.choice (rest.map stepsOf)]]

/-! ## Repetitions -/

/-- The bounds that a repetition sign gives; a brace that opens no bounds is literal. -/
def bounds? : Char → Reader (Option (Nat × Option Nat))
  | '?' => return some (0, some 1)
  | '*' => return some (0, none)
  | '+' => return some (1, none)
  | _ => do
    if (← peek) = some (.plain '\x7d') then return none
    let start ← get
    let lo ← charsUpTo start.rest.length Char.isDigit
    let hi ← if ← accept ',' then charsUpTo start.rest.length Char.isDigit else pure lo
    unless ← accept '\x7d' do
      set start
      return none
    let least ← if lo = [] then pure 0 else countOf lo
    if hi = [] then return some (least, none)
    let greatest ← countOf hi
    if greatest < least then refuse
    return some (least, some greatest)

/-- Repeat the last item of a sequence, lazily before a question mark and possessively before a
plus sign. -/
def repeatItem (lo : Nat) (hi : Option Nat) (last : Option Item) : Reader Part := do
  match last.bind Item.body? with
  | none => refuse
  | some body =>
    if (← get).wishes.single then doom
    if ← accept '?' then return .again (.repeated lo hi .lazy body)
    if ← accept '+' then return .again (.repeated lo hi .possessive body)
    return .again (.repeated lo hi .greedy body)

/-! ## Inline flags -/

/-- Turn a flag on or off; other letters change nothing. -/
def setFlag (on : Bool) (f : Flags) : Char → Flags
  | 'i' => { f with ignoreCase := on }
  | 'm' => { f with multiLine := on }
  | 's' => { f with dotAll := on }
  | 'x' => { f with spaced := on }
  | 'a' => { f with ascii := on }
  | 'u' => { f with ascii := !on }
  | _ => f

def isFlagLetter (c : Char) : Bool := c ∈ ['i', 'm', 's', 'x', 'a', 'u', 't', 'L']

/-- Read flag letters up to one of the closing characters, which is returned. -/
def flagLetters : Nat → List Char → Text → Char → Reader (Text × Char)
  | 0, _, _, _ => refuse
  | fuel + 1, closing, letters, c => do
    if !isFlagLetter c then refuse
    match ← next with
    | .plain d =>
      if d ∈ closing then return (letters ++ [c], d)
      flagLetters fuel closing (letters ++ [c]) d
    | _ => refuse

/-- Make flags hold for the whole pattern. -/
def wish (letters : Text) : Reader Unit :=
  modify fun s =>
    { s with
      flags := letters.foldl (setFlag true) s.flags
      wishes :=
        { ascii := s.wishes.ascii || letters.contains 'a'
          unicode := s.wishes.unicode || letters.contains 'u'
          single := s.wishes.single || letters.contains 't' } }

/-- Read an inline flag group after its first letter or minus sign: the flags of the group that
follows, or `none` if the flags are wished for the whole pattern. The letters for kinds of text
exclude each other and cannot be turned off. -/
def inlineFlags (c : Char) : Reader (Option Flags) := do
  let s ← get
  let fuel := s.rest.length + 1
  let (on, close) ← if c = '-' then pure ([], '-') else flagLetters fuel [')', '-', ':'] [] c
  if on.contains 'L' ∨ (on.contains 'a' ∧ on.contains 'u') then refuse
  if close = ')' then
    wish on
    return none
  if on.contains 't' then refuse
  let f := on.foldl (setFlag true) s.flags
  if close = ':' then return some f
  match ← next with
  | .plain d =>
    let (off, _) ← flagLetters fuel [':'] [] d
    if off.any (· ∈ ['a', 'u', 'L', 't']) ∨ off.any (on.contains ·) then refuse
    return some (off.foldl (setFlag false) f)
  | _ => refuse

/-! ## Sequences and groups -/

/-- Pass over a comment up to and including a line feed. -/
def skipComment : Reader Unit := do
  goOn ((← get).rest.dropWhile (· ≠ .plain '\n')).tail

/-- Pass over a group that is a comment. -/
def skipCommentGroup : Reader Unit := do
  match (← get).rest.dropWhile (· ≠ .plain ')') with
  | [] => refuse
  | _ :: r => goOn r

/-- The characters that are left out where a pattern is spaced. -/
def isSpacing (c : Char) : Bool := c ∈ [' ', '\t', '\n', '\r', '\x0B', '\x0C']

/-- A look at what lies ahead or behind. One that goes back over a width that is not fixed is
refused in the end. -/
def lookOf (negated isBehind : Bool) (p : Pattern) : Reader Part := do
  if !isBehind then return .sealed [.look negated 0 p]
  let w ← widthOf p
  if !w.isFixed then doom
  return .sealed [.look negated w.least p]

mutual

/-- Alternatives up to the end of the group; `first` where the pattern begins. -/
def alternatives : Nat → Bool → Reader (List (List Part))
  | 0, _ => refuse
  | fuel + 1, first => do
    let p ← sequenceItems fuel first []
    if ← accept '|' then return p :: (← alternatives fuel false) else return [p]

/-- The items of a sequence up to a bar, a closing parenthesis or the end. The list holds the items
before, the last one first. -/
def sequenceItems : Nat → Bool → List Item → Reader (List Part)
  | 0, _, _ => refuse
  | fuel + 1, first, items => do
    let go := sequenceItems fuel first
    let add := fun (s : Step) => go (.part (.step s) :: items)
    match ← peek with
    | none | some (.plain '|') | some (.plain ')') => return items.reverse.flatMap Item.parts
    | some .broken => refuse
    | some (.escaped c) => skip; add (← escape c)
    | some (.plain c) =>
      skip
      let flags := (← get).flags
      if flags.spaced ∧ isSpacing c then return ← go items
      if flags.spaced ∧ c = '#' then
        skipComment
        return ← go items
      match c with
      | '[' => add (← bracketed)
      | '.' => add (.one (if flags.dotAll then .all else .allButLineFeed))
      | '^' => add (.anchor (if flags.multiLine then .lineStart else .textStart))
      | '$' => add (.anchor (if flags.multiLine then .lineEnd else .lastLineEnd))
      | '(' =>
        match ← group fuel (first && items.isEmpty) with
        | some item => go (item :: items)
        | none => go items
      | c =>
        if c ∈ ['*', '+', '?', '\x7b'] then
          match ← bounds? c with
          | none => add (← literal c.toNat)
          | some (lo, hi) => go (.part (← repeatItem lo hi items.head?) :: items.tail)
        else add (← literal c.toNat)

/-- The inside of a group with its closing parenthesis. -/
def inside : Nat → Reader (List Part)
  | 0 => refuse
  | fuel + 1 => do
    let ps ← alternatives fuel false
    expect ')'
    return alternativesOf (← get).flags.rule ps

/-- A group after its opening parenthesis; `none` for one that stands for no item. `first` tells
that nothing comes before it. -/
def group : Nat → Bool → Reader (Option Item)
  | 0, _ => refuse
  | fuel + 1, first => do
    unless ← accept '?' do return some (.part (← captured fuel none))
    match ← next with
    | .plain 'P' =>
      if ← accept '<' then
        let name ← textUntil '>'
        if !Text.isIdentifier name then refuse
        return some (.part (← captured fuel (some name)))
      if ← accept '=' then
        let name ← textUntil ')'
        match (← get).names.lookup name with
        | some n => return some (.part (.step (← referTo n)))
        | none => refuse
      refuse
    | .plain ':' => return some (.group (← inside fuel))
    | .plain '#' => skipCommentGroup; return none
    | .plain '=' => return some (.part (← lookOf false false (stepsOf (← inside fuel))))
    | .plain '!' => return some (.part (← lookOf true false (stepsOf (← inside fuel))))
    | .plain '<' =>
      let t ← next
      if t ≠ .plain '=' ∧ t ≠ .plain '!' then refuse
      let outer := (← get).behindFrom
      if outer.isNone then modify fun s => { s with behindFrom := some s.widths.length }
      let ps ← inside fuel
      modify fun s => { s with behindFrom := outer }
      return some (.part (← lookOf (t = .plain '!') true (stepsOf ps)))
    | .plain '>' => return some (.part (.sealed [.atomic (stepsOf (← inside fuel))]))
    | .plain '(' =>
      let n ← testedGroup (← textUntil ')')
      checkBehind n
      let p ← sequenceItems fuel false []
      let q ← if ← accept '|' then sequenceItems fuel false [] else pure []
      expect ')'
      return some (.part (.sealed [.ifGroup n (stepsOf p) (stepsOf q)]))
    | .plain c =>
      if !isFlagLetter c ∧ c ≠ '-' then refuse
      match ← inlineFlags c with
      | some f => return some (.part (.sealed (stepsOf (← withFlags f (inside fuel)))))
      | none => if first then return none else refuse
    | _ => refuse

/-- The body of a capturing group with its closing parenthesis. -/
def captured : Nat → Option Text → Reader Part
  | 0, _ => refuse
  | fuel + 1, name => do
    let n ← openGroup name
    let p := stepsOf (← inside fuel)
    closeGroup n p
    return .sealed (.capture n p)

end

/-! ## Whole patterns -/

/-- Read a whole pattern. That both kinds of letters are asked for is found once all has been read,
and only then what else makes no pattern. -/
def whole (fuel : Nat) : Reader Pattern := do
  let ps ← alternatives fuel true
  let s ← get
  if s.wishes.ascii ∧ s.wishes.unicode then throw .flagClash
  if s.rest ≠ [] ∨ s.tested.any (s.widths.length < ·) ∨ s.doomed then refuse
  return stepsOf (alternativesOf s.flags.rule ps)

/-- Read a pattern from its written form. -/
def ofText (s : Text) : Except Error Pattern := do
  let rest := signs s
  if rest.head? = some .broken then throw .malformed
  (whole (5 * rest.length + 8)).run' { rest }

end Letterhead.Pattern

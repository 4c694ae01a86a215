/-!
# Regular expressions

Patterns for parts of lines, in the two forms that programs read: in the basic form a backslash turns
parentheses, braces, bars, plus and question marks into operators, in the extended form it turns them
into themselves. Of all matches that begin at a place the longest one counts, and of several ways to
it the one in which earlier parts are longer.

A state of matching is a place in a line with the groups found so far. An expression takes a state to
the states that may follow, the one that has gone farthest first, so sequences and repetitions are
built from their parts. Of several states at one place only the first is kept, which bounds their
number by the length of the line.

## Main definitions

* `Regex` — expressions
* `Regex.after` — the states that may follow a state
* `Regex.matchAt?`, `Regex.find?` — the match at a place, the first match from a place on
* `Regex.matchesIn` — all matches in a line
-/

namespace StepFlow.Shell

/-- Where an expression without characters may stand. -/
inductive RegexPlace where
  | textStart
  | textEnd
  /-- At the beginning of the text or behind a line end. -/
  | lineStart
  | lineEnd
  | wordStart
  | wordEnd
  | wordEdge
  | noWordEdge
  deriving DecidableEq, Repr, Inhabited

/-- A regular expression. -/
inductive Regex where
  | empty
  /-- A character of one of the ranges, or of none of them. -/
  | oneOf (negated : Bool) (ranges : List (Char × Char))
  | place (p : RegexPlace)
  | sequence (first second : Regex)
  | either (first second : Regex)
  | repeated (least : Nat) (most : Option Nat) (r : Regex)
  /-- A part whose match is remembered under a number. -/
  | group (number : Nat) (r : Regex)
  /-- What a group has matched; letters may differ in case. -/
  | same (ignoresCase : Bool) (number : Nat)
  deriving DecidableEq, Repr, Inhabited

namespace Regex

def char (c : Char) : Regex := oneOf false [(c, c)]

def anyChar : Regex := oneOf true []

/-- The characters of words. -/
def isWordChar (c : Char) : Bool := c.isAlphanum || c = '_'

/-! ### States -/

/-- A place in a text, and the groups found on the way to it. -/
structure State where
  /-- The characters before the place, the nearest one first. -/
  before : List Char := []
  rest : List Char
  groups : List (Nat × List Char) := []
  deriving DecidableEq, Repr, Inhabited

namespace State

/-- Go over characters. -/
def forward (s : State) : Nat → State
  | 0 => s
  | n + 1 =>
    match s.rest with
    | [] => s
    | c :: rest => { s with before := c :: s.before, rest }.forward n

/-- The characters from one state to a later one. -/
def span (s t : State) : List Char := s.rest.take (s.rest.length - t.rest.length)

/-- What a group has matched. -/
def group? (s : State) (number : Nat) : Option (List Char) := s.groups.lookup number

/-- The states with different places, those that have gone farthest first. -/
def ordered (states : List State) : List State :=
  let sorted := (states.map fun s => (s.rest.length, s)).mergeSort fun a b => a.1 ≤ b.1
  (distinct sorted).map (·.2)
where
  distinct : List (Nat × State) → List (Nat × State)
    | a :: b :: rest => if a.1 = b.1 then distinct (a :: rest) else a :: distinct (b :: rest)
    | l => l
  termination_by l => l.length

end State

/-! ### Matching -/

def takes (negated : Bool) (ranges : List (Char × Char)) (c : Char) : Bool :=
  negated != ranges.any fun r => r.1 ≤ c && c ≤ r.2

/-- A state is at such a place. -/
def isAt (p : RegexPlace) (s : State) : Bool :=
  let left := s.before.head?.any isWordChar
  let right := s.rest.head?.any isWordChar
  match p with
  | .textStart => s.before.isEmpty
  | .textEnd => s.rest.isEmpty
  | .lineStart => s.before.head?.all (· = '\n')
  | .lineEnd => s.rest.head?.all (· = '\n')
  | .wordStart => !left && right
  | .wordEnd => left && !right
  | .wordEdge => left ≠ right
  | .noWordEdge => left = right

/-- The states behind up to `most` characters that an expression takes, the farthest first. -/
private def afterChars (negated : Bool) (ranges : List (Char × Char)) (most : Option Nat) (s : State) :
    List State :=
  let run := (s.rest.take (most.getD s.rest.length)).takeWhile (takes negated ranges)
  let step (acc : List State × State) (c : Char) : List State × State :=
    let t := { acc.2 with before := c :: acc.2.before, rest := acc.2.rest.drop 1 }
    (t :: acc.1, t)
  (run.foldl step ([s], s)).1

/-- The states behind any number of steps, up to `rounds`, each of which makes the rest shorter; no
place is left a second time. -/
private def closure (step : State → List State) : (rounds : Nat) → (seen : List Nat) → List State →
    List State
  | 0, _, found => found
  | rounds + 1, seen, found =>
    let next := (found.flatMap fun s => (step s).filter fun t => t.rest.length < s.rest.length).filter
      fun t => !seen.contains t.rest.length
    let next := State.ordered next
    if next.isEmpty then found
    else found ++ closure step rounds (next.map (·.rest.length) ++ seen) next

/-- The states behind exactly a number of steps. -/
private def afterSteps (step : State → List State) : Nat → List State → List State
  | 0, found => found
  | n + 1, found => afterSteps step n (State.ordered (found.flatMap step))

private def lowered (ignoresCase : Bool) (cs : List Char) : List Char :=
  if ignoresCase then cs.map Char.toLower else cs

/-- The states that may follow a state, the farthest first. -/
def after : Regex → State → List State
  | .empty, s => [s]
  | .oneOf negated ranges, s =>
    match s.rest with
    | c :: rest => if takes negated ranges c then [{ s with before := c :: s.before, rest }] else []
    | [] => []
  | .place p, s => if isAt p s then [s] else []
  | .sequence r t, s => State.ordered ((after r s).flatMap (after t))
  | .either r t, s => State.ordered (after r s ++ after t s)
  | .repeated least most r, s =>
    match r with
    | .oneOf negated ranges => (afterChars negated ranges most s).filter fun t =>
        t.rest.length + least ≤ s.rest.length
    | r =>
      let first := afterSteps (after r) least [s]
      let rounds := (most.map (· - least)).getD s.rest.length
      State.ordered (closure (after r) rounds (first.map (·.rest.length)) first)
  | .group number r, s =>
    (after r s).map fun t => { t with groups := (number, s.span t) :: t.groups.filter (·.1 ≠ number) }
  | .same ignoresCase number, s =>
    match s.group? number with
    | none => []
    | some cs =>
      let found := s.rest.take cs.length
      if lowered ignoresCase found = lowered ignoresCase cs then [s.forward cs.length] else []

/-- A match: the state before it and the state behind it. -/
structure Match where
  start : State
  stop : State
  deriving DecidableEq, Repr, Inhabited

/-- The matched characters. -/
def Match.text (m : Match) : List Char := m.start.span m.stop

/-- The longest match at a place that satisfies a condition. -/
def matchAt? (rs : List Regex) (accept : Match → Bool) (s : State) : Option Match :=
  let s := { s with groups := [] }
  (State.ordered (rs.flatMap fun r => r.after s)).findSome? fun t =>
    if accept ⟨s, t⟩ then some ⟨s, t⟩ else none

/-- The first match from a place on. -/
def findFrom? (rs : List Regex) (accept : Match → Bool) : (room : Nat) → State → Option Match
  | 0, _ => none
  | room + 1, s =>
    match matchAt? rs accept s with
    | some m => some m
    | none => if s.rest.isEmpty then none else findFrom? rs accept room (s.forward 1)

/-- The first match from a place on. -/
def find? (rs : List Regex) (s : State) (accept : Match → Bool := fun _ => true) : Option Match :=
  findFrom? rs accept (s.rest.length + 1) s

/-- The matches from a place on, from left to right. An empty match right behind another match does
not count. -/
def matchesFrom (rs : List Regex) (accept : Match → Bool) : (room : Nat) → (last : Option Nat) →
    State → List Match
  | 0, _, _ => []
  | room + 1, last, s =>
    match find? rs s accept with
    | none => []
    | some m =>
      let length := m.start.rest.length
      if m.stop.rest.length = length then
        let next := if m.start.rest.isEmpty then [] else
          matchesFrom rs accept room none (m.start.forward 1)
        if last = some length then next else m :: next
      else m :: matchesFrom rs accept room (some m.stop.rest.length) { m.stop with groups := [] }

/-- The matches in a text, from left to right. -/
def matchesIn (rs : List Regex) (text : List Char) (accept : Match → Bool := fun _ => true) :
    List Match :=
  matchesFrom rs accept (text.length + 1) none ⟨[], text, []⟩

end Regex

end StepFlow.Shell

import StepFlow.Shell.Programs.Options

/-!
# Differences

What two sequences of lines have in common, and in which runs of lines they differ. A run that could
stand in several places stands in the last one.

## Main definitions

* `LineChange` — a run of lines that differ
* `changesBetween` — all runs in which two sequences of lines differ
-/

namespace StepFlow.Shell

/-- Lines of one sequence in place of lines of another one; one of both may be empty. -/
structure LineChange where
  /-- How many lines stand before it in the one sequence, and how many lines it has there. -/
  oldStart : Nat
  oldCount : Nat
  newStart : Nat
  newCount : Nat
  deriving DecidableEq, Repr, Inhabited

/-! ### Common lines -/

/-- A row of a table of lengths: entry `j` of it is the length of the longest common part of the lines
from `a` on, `below` being the row for the lines behind `a`, and of `bs` from line `j` on. -/
private def commonRow {α : Type} [DecidableEq α] (a : α) : List α → (below : List Nat) → List Nat
  | b :: bs, n :: below =>
    let row := commonRow a bs below
    (if a = b then below.headD 0 + 1 else max n (row.headD 0)) :: row
  | _, _ => [0]

/-- The rows for all ends of the first sequence. -/
private def commonTable {α : Type} [DecidableEq α] (bs : List α) : List α → List (List Nat)
  | [] => [List.replicate (bs.length + 1) 0]
  | a :: as =>
    let table := commonTable bs as
    commonRow a bs (table.headD []) :: table

/-- What happens to a line. -/
private inductive LineFate where
  | kept
  | removed
  | added
  deriving DecidableEq

/-- The fates of lines such that as many as possible are kept; lines are removed before others are
added. -/
private def fatesOf {α : Type} [DecidableEq α] : (fuel : Nat) → List (List Nat) → List α → List α →
    List LineFate
  | 0, _, _, _ => []
  | _, _, as, [] => as.map fun _ => .removed
  | _, _, [], bs => bs.map fun _ => .added
  | fuel + 1, table, a :: as, b :: bs =>
    if a = b then .kept :: fatesOf fuel ((table.drop 1).map (·.drop 1)) as bs
    else
      let here := table.headD []
      let below := (table.drop 1).headD []
      if (here.drop 1).headD 0 ≤ below.headD 0 then .removed :: fatesOf fuel (table.drop 1) as (b :: bs)
      else .added :: fatesOf fuel (table.map (·.drop 1)) (a :: as) bs

/-! ### Runs -/

/-- The runs of lines that are not kept. -/
private def runsOf : (old new : Nat) → (open' : Option LineChange) → List LineFate → List LineChange
  | _, _, current, [] => current.toList
  | old, new, current, fate :: rest =>
    let c := current.getD ⟨old, 0, new, 0⟩
    match fate with
    | .kept => current.toList ++ runsOf (old + 1) (new + 1) none rest
    | .removed => runsOf (old + 1) new (some { c with oldCount := c.oldCount + 1 }) rest
    | .added => runsOf old (new + 1) (some { c with newCount := c.newCount + 1 }) rest

/-- How far a run of lines can move on: as long as its first line equals the one behind it. -/
private def slideOf {α : Type} [DecidableEq α] (lines : List α) (start count room : Nat) : Nat :=
  let first := lines.drop start
  let behind := (lines.drop (start + count)).take room
  ((first.zip behind).takeWhile fun (a, b) => a = b).length

/-- Move runs of lines that are only removed or only added on as far as possible. -/
private def settle {α : Type} [DecidableEq α] (olds news : List α) : List LineChange → List LineChange
  | [] => []
  | c :: rest =>
    let room := match rest with
      | next :: _ => next.oldStart - (c.oldStart + c.oldCount)
      | [] => olds.length
    let slide :=
      if c.newCount = 0 then slideOf olds c.oldStart c.oldCount room
      else if c.oldCount = 0 then slideOf news c.newStart c.newCount room
      else 0
    { c with oldStart := c.oldStart + slide, newStart := c.newStart + slide } :: settle olds news rest

/-- Runs with no kept line between them as one run. -/
private def merged : List LineChange → List LineChange
  | [] => []
  | c :: rest =>
    match merged rest with
    | next :: more =>
      if c.oldStart + c.oldCount = next.oldStart && c.newStart + c.newCount = next.newStart then
        ⟨c.oldStart, c.oldCount + next.oldCount, c.newStart, c.newCount + next.newCount⟩ :: more
      else c :: next :: more
    | [] => [c]

/-- The number of lines that two sequences begin with in common. -/
private def commonStart {α : Type} [DecidableEq α] (as bs : List α) : Nat :=
  ((as.zip bs).takeWhile fun (a, b) => a = b).length

/-- All runs in which two sequences of lines differ. -/
def changesBetween {α : Type} [DecidableEq α] (olds news : List α) : List LineChange :=
  let before := commonStart olds news
  let as := olds.drop before
  let bs := news.drop before
  let behind := commonStart as.reverse bs.reverse
  let as := as.take (as.length - behind)
  let bs := bs.take (bs.length - behind)
  let fates := fatesOf (as.length + bs.length + 1) (commonTable bs as) as bs
  merged (settle olds news (runsOf before before none fates))

end StepFlow.Shell

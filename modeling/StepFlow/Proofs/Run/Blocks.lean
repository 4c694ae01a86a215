import StepFlow.Proofs.Run.Course

/-!
# The blocks of a run

The deeds of a run fall into blocks, one for each step that has had its turn. A block begins with
the attempt of its step. If this has failed and the failure policy of the step is a retry, the block
goes on with retries, each of them after its pause, until one succeeds or no more are left. The
policy of the step that is attempted again plays no part.

`Block.Lawful` says what a complete block looks like, without a word about how it came about. That
every block of a run is of this kind is an invariant of moments, `Run.Charted`: until the run ends,
all blocks but the one at work are complete, and the run has gone on after each of them.

## Main definitions

* `Block` — what the turn of a step comes to
* `Block.Lawful` — a block is what the failure policy of its step asks for
* `Block.Passes` — the run goes on after a block
* `Run.Charted` — the deeds of a moment fall into blocks
* `Run.Placed` — what is known of a block that need not be complete
* `Run.Ends` — how a run has ended, as told by its blocks

## Main results

* `Run.Charted.of_moves` — the next move of a run keeps its deeds in blocks
* `Run.Reaches.charted` — the deeds of a run of an accepted workflow fall into blocks
* `Run.Charted.exists_blocks` — the blocks of a moment stand in their places
* `Run.execute_blocks` — the results of a report are those of blocks
-/

namespace StepFlow

/-! ### Blocks and their deeds -/

/-- A retry, with the pauses right before it. -/
structure Retrial where
  pauses : List Double
  result : StepResult

/-- What the turn of a step comes to. -/
structure Block where
  /-- What is to follow a failure of the step. -/
  action : Option FailureAction
  /-- The result of the attempt that begins the block. -/
  first : StepResult
  retrials : List Retrial

def Retrial.deeds (y : Retrial) : List Deed := y.pauses.map .pause ++ [.retry y.result]

/-- The pauses among deeds, in order. -/
def pausesOf (deeds : List Deed) : List Double :=
  deeds.filterMap fun d => match d with
    | .pause seconds => some seconds
    | _ => none

@[simp] theorem historyOf_cons_retry (x : StepResult) (ds : List Deed) :
    historyOf (.retry x :: ds) = x :: historyOf ds := rfl

@[simp] theorem pausesOf_cons_retry (x : StepResult) (ds : List Deed) :
    pausesOf (.retry x :: ds) = pausesOf ds := rfl

@[simp] theorem historyOf_map_pause (ps : List Double) : historyOf (ps.map .pause) = [] := by
  induction ps with
  | nil => rfl
  | cons p ps ih => exact ih

@[simp] theorem pausesOf_append (ds es : List Deed) :
    pausesOf (ds ++ es) = pausesOf ds ++ pausesOf es :=
  List.filterMap_append

@[simp] theorem pausesOf_map_pause (ps : List Double) : pausesOf (ps.map .pause) = ps := by
  induction ps with
  | nil => rfl
  | cons p ps ih => exact congrArg (p :: ·) ih

namespace Block

/-- The results of a block, in order. -/
def results (b : Block) : List StepResult := b.first :: b.retrials.map Retrial.result

theorem results_ne_nil (b : Block) : b.results ≠ [] := List.cons_ne_nil _ _

/-- The pauses of a block, in order. -/
def pauses (b : Block) : List Double := b.retrials.flatMap Retrial.pauses

/-- The deeds of a block, in order. -/
def deeds (b : Block) : List Deed := .turn b.first :: b.retrials.flatMap Retrial.deeds

/-- The block with one more retry. -/
def snoc (b : Block) (y : Retrial) : Block := { b with retrials := b.retrials ++ [y] }

theorem deeds_snoc (b : Block) (y : Retrial) : (b.snoc y).deeds = b.deeds ++ y.deeds := by
  simp [deeds, snoc]

theorem historyOf_deeds (b : Block) : historyOf b.deeds = b.results := by
  suffices ∀ ys : List Retrial, historyOf (ys.flatMap Retrial.deeds) = ys.map Retrial.result from
    congrArg (b.first :: ·) (this b.retrials)
  intro ys
  induction ys with
  | nil => rfl
  | cons y ys ih => simp [Retrial.deeds, ih]

theorem historyOf_flatMap_deeds (blocks : List Block) :
    historyOf (blocks.flatMap deeds) = blocks.flatMap results := by
  induction blocks with
  | nil => rfl
  | cons b blocks ih => simp [historyOf_deeds, ih]

theorem pausesOf_deeds (b : Block) : pausesOf b.deeds = b.pauses := by
  suffices ∀ ys : List Retrial, pausesOf (ys.flatMap Retrial.deeds) = ys.flatMap Retrial.pauses from
    this b.retrials
  intro ys
  induction ys with
  | nil => rfl
  | cons y ys ih => simp [Retrial.deeds, ih]

theorem pausesOf_flatMap_deeds (blocks : List Block) :
    pausesOf (blocks.flatMap deeds) = blocks.flatMap pauses := by
  induction blocks with
  | nil => rfl
  | cons b blocks ih => simp [pausesOf_deeds, ih]

end Block

/-! ### Lawful blocks -/

/-- A result is one of the step at a position. -/
def StepResult.Of (x : StepResult) (w : Workflow) (i : Nat) : Prop :=
  x.index = i ∧ ∃ s, w.steps[i]? = some s ∧ x.name = s.name

theorem StepResult.Of.getElem?_stepNames {x : StepResult} {w : Workflow} {i : Nat} (h : x.Of w i) :
    w.stepNames[i]? = some x.name := by
  obtain ⟨-, s, hs, hname⟩ := h
  rw [Workflow.stepNames, List.getElem?_map, hs, hname]
  rfl

/-- There is one pause before a retry, of as many milliseconds as are asked for, or none if nothing
is asked for. -/
def Retrial.Paused (y : Retrial) (delayMs : Int) : Prop :=
  if 0 < delayMs then ∃ ms, Double.ofInt? delayMs = some ms ∧ y.pauses = [ms.div (.ofInt 1000)]
  else y.pauses = []

namespace Block

/-- A block begins with an attempt of the step at a position, and its action is the one that this
step declares. -/
structure Begins (b : Block) (w : Workflow) (i : Nat) : Prop where
  first : b.first.Of w i
  action : ∃ s, w.steps[i]? = some s ∧ Policy.read (some (i : Int)) s.onFailure = .ok b.action

/-- The retries of a block are those of a policy that has a target attempted again. -/
structure Repairs (b : Block) (w : Workflow) (target : RetryTarget) (maxRetries delayMs : Int) :
    Prop where
  /-- They are attempts of the step that the target resolves to. -/
  target : ∃ t, target.resolve w.stepNames = .ok t ∧ ∀ y ∈ b.retrials, y.result.Of w t
  paused : ∀ y ∈ b.retrials, y.Paused delayMs
  /-- All have failed, except possibly the last. -/
  missed : ∀ y ∈ b.retrials.dropLast, y.result.success = false
  length_le : b.retrials.length ≤ maxRetries.toNat
  ne_nil : 1 ≤ maxRetries → b.retrials ≠ []
  /-- If all have failed, none was left. -/
  exhausted : (∀ y ∈ b.retrials, y.result.success = false) →
    b.retrials.length = maxRetries.toNat

/-- A block is what the failure policy of the step at a position asks for. -/
structure Lawful (b : Block) (w : Workflow) (i : Nat) : Prop extends b.Begins w i where
  of_success : b.first.success = true → b.retrials = []
  of_no_retry : (∀ target maxRetries delayMs, b.action ≠ some (.retry target maxRetries delayMs)) →
    b.retrials = []
  of_retry : b.first.success = false → ∀ target maxRetries delayMs,
    b.action = some (.retry target maxRetries delayMs) → b.Repairs w target maxRetries delayMs

/-- A block ends in a success, or it is a failed attempt after which the run is to go on. -/
def Passes (b : Block) : Prop :=
  (b.results.getLast b.results_ne_nil).success = true ∨
    b.retrials = [] ∧ b.action = some .proceed

variable {b : Block} {w : Workflow} {i : Nat}

/-- Without retries a block passes by its only attempt or by its action. -/
theorem passes_iff_of_retrials_eq_nil (h : b.retrials = []) :
    b.Passes ↔ b.first.success = true ∨ b.action = some .proceed := by
  simp [Passes, results, h]

/-- A block that ends in a retry passes when this has succeeded. -/
theorem passes_snoc_iff (b : Block) (y : Retrial) :
    (b.snoc y).Passes ↔ y.result.success = true := by
  simp [Passes, results, snoc, List.getLast_cons]

theorem lawful_of_success (hb : b.Begins w i) (hnil : b.retrials = [])
    (h : b.first.success = true) : b.Lawful w i where
  toBegins := hb
  of_success _ := hnil
  of_no_retry _ := hnil
  of_retry hfail := absurd hfail (by simp [h])

theorem lawful_of_no_retry (hb : b.Begins w i) (hnil : b.retrials = [])
    (h : ∀ target maxRetries delayMs, b.action ≠ some (.retry target maxRetries delayMs)) :
    b.Lawful w i where
  toBegins := hb
  of_success _ := hnil
  of_no_retry _ := hnil
  of_retry _ _ _ _ haction := absurd haction (h _ _ _)

theorem lawful_of_repairs (hb : b.Begins w i) (hfail : b.first.success = false)
    {target : RetryTarget} {maxRetries delayMs : Int}
    (haction : b.action = some (.retry target maxRetries delayMs))
    (h : b.Repairs w target maxRetries delayMs) : b.Lawful w i where
  toBegins := hb
  of_success hsucc := absurd hsucc (by simp [hfail])
  of_no_retry hno := absurd haction (hno _ _ _)
  of_retry _ _ _ _ haction' := by
    cases haction.symm.trans haction'
    exact h

/-- Only a policy that has a target attempted again makes retries. -/
theorem Lawful.exists_repairs (h : b.Lawful w i) (hne : b.retrials ≠ []) :
    ∃ target maxRetries delayMs, b.action = some (.retry target maxRetries delayMs) ∧
      b.Repairs w target maxRetries delayMs := by
  have hfail : b.first.success = false :=
    Bool.eq_false_iff.mpr fun hsucc => hne (h.of_success hsucc)
  cases haction : b.action with
  | none => exact absurd (h.of_no_retry (by simp [haction])) hne
  | some action =>
    cases action with
    | proceed => exact absurd (h.of_no_retry (by simp [haction])) hne
    | stop => exact absurd (h.of_no_retry (by simp [haction])) hne
    | retry target maxRetries delayMs =>
      exact ⟨target, maxRetries, delayMs, rfl, h.of_retry hfail _ _ _ haction⟩

end Block

namespace Run

variable {r : Run}

/-! ### Blocks that are not complete -/

/-- The block at work in a repair: its first attempt has failed, and so have the retries so far. At
most `left` more are to come. -/
structure Repairing (r : Run) (p : Repair) (left : Nat) (b : Block) : Prop
    extends b.Begins r.workflow p.failed where
  failed : b.first.success = false
  declared : ∃ target : RetryTarget, b.action = some (.retry target p.maxRetries p.delayMs) ∧
    target.resolve r.workflow.stepNames = .ok p.target
  target : ∀ y ∈ b.retrials, y.result.Of r.workflow p.target
  paused : ∀ y ∈ b.retrials, y.Paused p.delayMs
  missed : ∀ y ∈ b.retrials, y.result.success = false
  count : b.retrials.length + left = p.maxRetries.toNat

namespace Repairing

variable {p : Repair} {left : Nat} {b : Block} {y : Retrial}

/-- The target of a retry that is due is one of the steps. -/
theorem exists_target (h : r.Repairing p left b) :
    ∃ t, r.workflow.steps[p.target]? = some t := by
  obtain ⟨target, -, hres⟩ := h.declared
  have hlt : p.target < r.workflow.steps.length := by simpa using RetryTarget.resolve_lt hres
  exact ⟨_, List.getElem?_eq_getElem hlt⟩

/-- When no retry is left, the block is complete, and the run does not go on. -/
theorem exhausted (h : r.Repairing p 0 b) :
    b.Lawful r.workflow p.failed ∧ ¬b.Passes := by
  obtain ⟨target, haction, hres⟩ := h.declared
  have hcount : b.retrials.length = p.maxRetries.toNat := h.count
  constructor
  · exact Block.lawful_of_repairs h.toBegins h.failed haction {
      target := ⟨p.target, hres, h.target⟩
      paused := h.paused
      missed := fun y hy => h.missed y (List.dropLast_subset _ hy)
      length_le := Nat.le_of_eq hcount
      ne_nil := fun hpos hnil => by
        rw [hnil, List.length_nil] at hcount
        omega
      exhausted := fun _ => hcount }
  · have hall : ∀ x ∈ b.results, x.success = false := by
      simpa [Block.results] using ⟨h.failed, h.missed⟩
    rintro (hlast | ⟨-, hproceed⟩)
    · rw [hall _ (List.getLast_mem _)] at hlast
      cases hlast
    · cases haction.symm.trans hproceed

/-- When a retry has succeeded, the block is complete, and the run goes on. -/
theorem mended (h : r.Repairing p (left + 1) b) (hy : y.result.Of r.workflow p.target)
    (hpaused : y.Paused p.delayMs) (hsucc : y.result.success = true) :
    (b.snoc y).Lawful r.workflow p.failed ∧ (b.snoc y).Passes := by
  obtain ⟨target, haction, hres⟩ := h.declared
  have hcount := h.count
  constructor
  · exact Block.lawful_of_repairs ⟨h.first, h.action⟩ h.failed haction {
      target := ⟨p.target, hres, by simpa [Block.snoc, or_imp, forall_and] using ⟨h.target, hy⟩⟩
      paused := by simpa [Block.snoc, or_imp, forall_and] using ⟨h.paused, hpaused⟩
      missed := by simpa [Block.snoc] using h.missed
      length_le := by
        simp only [Block.snoc, List.length_append, List.length_singleton]
        omega
      ne_nil := by simp [Block.snoc]
      exhausted := fun hall => by
        have := hall y (by simp [Block.snoc])
        simp [hsucc] at this }
  · rw [Block.passes_snoc_iff]
    exact hsucc

/-- When a retry has failed, one less is left. -/
theorem again (h : r.Repairing p (left + 1) b) (hy : y.result.Of r.workflow p.target)
    (hpaused : y.Paused p.delayMs) (hfail : y.result.success = false) :
    r.Repairing p left (b.snoc y) where
  first := h.first
  action := h.action
  failed := h.failed
  declared := h.declared
  target := by simpa [Block.snoc, or_imp, forall_and] using ⟨h.target, hy⟩
  paused := by simpa [Block.snoc, or_imp, forall_and] using ⟨h.paused, hpaused⟩
  missed := by simpa [Block.snoc, or_imp, forall_and] using ⟨h.missed, hfail⟩
  count := by
    have := h.count
    simp only [Block.snoc, List.length_append, List.length_singleton]
    omega

end Repairing

/-! ### Moments of a run -/

/-- The blocks of the first `i` steps, after each of which the run has gone on. -/
structure Passed (r : Run) (i : Nat) (blocks : List Block) : Prop where
  length : blocks.length = i
  lawful : ∀ (j : Nat) (b : Block), blocks[j]? = some b → b.Lawful r.workflow j
  passes : ∀ b ∈ blocks, b.Passes

theorem Passed.nil : r.Passed 0 [] := ⟨rfl, by simp, by simp⟩

/-- What holds of the first blocks and of the block of the next step holds of all of them. -/
theorem Passed.forall_snoc {P : Nat → Block → Prop} {i : Nat} {blocks : List Block} {b : Block}
    (h : r.Passed i blocks) (hblocks : ∀ (j : Nat) (c : Block), blocks[j]? = some c → P j c)
    (hb : P i b) : ∀ (j : Nat) (c : Block), (blocks ++ [b])[j]? = some c → P j c := by
  intro j c hc
  rcases Nat.lt_or_ge j blocks.length with hlt | hge
  · rw [List.getElem?_append_left hlt] at hc
    exact hblocks j c hc
  · rw [List.getElem?_append_right hge] at hc
    obtain ⟨hj, rfl⟩ := List.getElem?_eq_some_iff.mp hc
    have hlength := h.length
    rw [List.length_singleton] at hj
    obtain rfl : j = i := by omega
    simpa using hb

/-- Lawful blocks stay lawful when the block of the next step is put after them. -/
theorem Passed.lawful_snoc {i : Nat} {blocks : List Block} {b : Block} (h : r.Passed i blocks)
    (hb : b.Lawful r.workflow i) :
    ∀ (j : Nat) (c : Block), (blocks ++ [b])[j]? = some c → c.Lawful r.workflow j :=
  h.forall_snoc h.lawful hb

theorem Passed.snoc {i : Nat} {blocks : List Block} {b : Block} (h : r.Passed i blocks)
    (hb : b.Lawful r.workflow i) (hp : b.Passes) : r.Passed (i + 1) (blocks ++ [b]) where
  length := by simp [h.length]
  lawful := h.lawful_snoc hb
  passes := by simpa [or_imp, forall_and] using ⟨h.passes, hp⟩

/-- The deeds of a moment fall into blocks. Those before the block at work are complete, and the run
has gone on after each of them. -/
def Charted (r : Run) : Moment → Prop
  | ⟨.turn i, ds, _⟩ => i ≤ r.workflow.steps.length ∧
      ∃ blocks, r.Passed i blocks ∧ ds = blocks.flatMap Block.deeds
  | ⟨.failed i, ds, _⟩ => ∃ blocks x, r.Passed i blocks ∧ x.Of r.workflow i ∧ x.success = false ∧
      ds = blocks.flatMap Block.deeds ++ [.turn x]
  | ⟨.repair p left, ds, _⟩ => ∃ blocks b, r.Passed p.failed blocks ∧ r.Repairing p left b ∧
      ds = blocks.flatMap Block.deeds ++ b.deeds
  | ⟨.retry p left, ds, _⟩ => ∃ blocks b pauses, r.Passed p.failed blocks ∧
      r.Repairing p (left + 1) b ∧ (∀ x, Retrial.Paused ⟨pauses, x⟩ p.delayMs) ∧
      ds = blocks.flatMap Block.deeds ++ b.deeds ++ pauses.map .pause
  | ⟨.ended .completed, ds, _⟩ => ∃ blocks, r.Passed r.workflow.steps.length blocks ∧
      ds = blocks.flatMap Block.deeds
  | ⟨.ended (.halted name i), ds, _⟩ => ∃ blocks b, r.Passed i blocks ∧ b.Lawful r.workflow i ∧
      ¬b.Passes ∧ (∃ s, r.workflow.steps[i]? = some s ∧ s.name = name) ∧
      ds = (blocks ++ [b]).flatMap Block.deeds

variable {out : Surroundings} {w : World}

/-- An attempt of the step at a position leaves a result of this step. -/
theorem of_attempt {results : List StepResult} {i number : Nat} {s : Step} {x : StepResult}
    {w' : World} (hs : r.workflow.steps[i]? = some s)
    (hx : (r.attempt results i s number).perform out w = (.ok x, w')) : x.Of r.workflow i := by
  obtain ⟨hname, hindex, -⟩ := labels_of_attempt_ok hx
  exact ⟨hindex, s, hs, hname⟩

/-- **A move keeps the deeds of a run in blocks.** -/
theorem Charted.of_moves (hacc : r.workflow.errors = .ok []) {m m' : Moment} (h : r.Charted m)
    (hmove : r.Moves out m m') : r.Charted m' := by
  cases hmove with
  | finish hi =>
    obtain ⟨hle, blocks, hpassed, rfl⟩ := h
    obtain rfl := Nat.le_antisymm hle hi
    exact ⟨blocks, hpassed, rfl⟩
  | succeed hs hx hsucc =>
    obtain ⟨-, blocks, hpassed, rfl⟩ := h
    obtain ⟨action, hread⟩ := (Workflow.accepted_of_errors hacc hs).policy
    have hb : Block.Begins ⟨action, _, []⟩ r.workflow _ := ⟨of_attempt hs hx, _, hs, hread⟩
    refine ⟨(List.getElem?_eq_some_iff.mp hs).1, _,
      hpassed.snoc (Block.lawful_of_success hb rfl hsucc) ?_, ?_⟩
    · exact (Block.passes_iff_of_retrials_eq_nil rfl).mpr (.inl hsucc)
    · simp [Block.deeds]
  | fail hs hx hfail =>
    obtain ⟨-, blocks, hpassed, rfl⟩ := h
    exact ⟨blocks, _, hpassed, of_attempt hs hx, hfail, rfl⟩
  | @halt i s _ _ _ hs hv _ =>
    obtain ⟨blocks, x, hpassed, hx, hfail, rfl⟩ := h
    obtain ⟨action, hread, haction⟩ :=
      read_of_verdict_halt (Workflow.accepted_of_errors hacc hs) hv
    have hb : Block.Begins ⟨action, x, []⟩ r.workflow i := ⟨hx, s, hs, hread⟩
    refine ⟨blocks, _, hpassed, Block.lawful_of_no_retry hb rfl ?_, ?_, ⟨s, hs, rfl⟩, ?_⟩
    · rintro target maxRetries delayMs rfl
      simp at haction
    · rw [Block.passes_iff_of_retrials_eq_nil rfl]
      rcases haction with rfl | rfl <;> simp [hfail]
    · simp [Block.deeds]
  | @proceed i s _ _ _ hs hv _ =>
    obtain ⟨blocks, x, hpassed, hx, hfail, rfl⟩ := h
    have hread := read_of_verdict_proceed hv
    have hb : Block.Begins ⟨some .proceed, x, []⟩ r.workflow i := ⟨hx, s, hs, hread⟩
    refine ⟨(List.getElem?_eq_some_iff.mp hs).1, _,
      hpassed.snoc (Block.lawful_of_no_retry hb rfl (by simp)) ?_, ?_⟩
    · exact (Block.passes_iff_of_retrials_eq_nil rfl).mpr (.inr rfl)
    · simp [Block.deeds]
  | @repair i s p _ _ hs hv =>
    obtain ⟨blocks, x, hpassed, hx, hfail, rfl⟩ := h
    obtain ⟨target, hread, hres, rfl⟩ := read_of_verdict_repair hv
    refine ⟨blocks, ⟨some (.retry target p.maxRetries p.delayMs), x, []⟩, hpassed, ?_, ?_⟩
    · exact {
        first := hx
        action := ⟨s, hs, hread⟩
        failed := hfail
        declared := ⟨target, rfl, hres⟩
        target := by simp
        paused := by simp
        missed := by simp
        count := Nat.zero_add _ }
    · simp [Block.deeds]
  | exhaust hs _ =>
    obtain ⟨blocks, b, hpassed, hb, rfl⟩ := h
    obtain ⟨hlawful, hpass⟩ := hb.exhausted
    exact ⟨blocks, b, hpassed, hlawful, hpass, ⟨_, hs, rfl⟩, by simp⟩
  | pass hpos _ =>
    obtain ⟨blocks, b, hpassed, hb, rfl⟩ := h
    refine ⟨blocks, b, [], hpassed, hb, fun x => ?_, by simp⟩
    rw [Retrial.Paused, if_neg hpos]
  | @pause p _ _ _ _ seconds hpos hpause _ =>
    obtain ⟨blocks, b, hpassed, hb, rfl⟩ := h
    refine ⟨blocks, b, [seconds], hpassed, hb, fun x => ?_, by simp⟩
    rw [Retrial.Paused, if_pos hpos]
    simp only [Run.pause] at hpause
    split at hpause
    · cases hpause
      exact ⟨_, ‹_›, rfl⟩
    · cases hpause
  | mend ht hx hsucc =>
    obtain ⟨blocks, b, pauses, hpassed, hb, hpaused, rfl⟩ := h
    obtain ⟨s, hs, -⟩ := hb.action
    obtain ⟨hlawful, hpass⟩ := hb.mended (y := ⟨pauses, _⟩) (of_attempt ht hx) (hpaused _) hsucc
    refine ⟨(List.getElem?_eq_some_iff.mp hs).1, _, hpassed.snoc hlawful hpass, ?_⟩
    simp [Block.deeds_snoc, Retrial.deeds]
  | miss ht hx hfail =>
    obtain ⟨blocks, b, pauses, hpassed, hb, hpaused, rfl⟩ := h
    refine ⟨blocks, _, hpassed,
      hb.again (y := ⟨pauses, _⟩) (of_attempt ht hx) (hpaused _) hfail, ?_⟩
    simp [Block.deeds_snoc, Retrial.deeds]

/-- **The deeds of a run of an accepted workflow fall into blocks.** -/
theorem Reaches.charted (hacc : r.workflow.errors = .ok []) {m : Moment}
    (h : r.Reaches out w m) : r.Charted m := by
  induction h with
  | start _ => exact ⟨Nat.zero_le _, [], .nil, rfl⟩
  | move _ hmove ih => exact ih.of_moves hacc hmove

/-! ### What is known of every block -/

/-- A block stands in its place, whether or not it is complete: it begins with an attempt of the
step at a position, and its retries are of the step that the policy of this step has for its
target. -/
structure Placed (r : Run) (i : Nat) (b : Block) : Prop where
  first : b.first.Of r.workflow i
  retried : ∀ y ∈ b.retrials, ∃ s target maxRetries delayMs t, r.workflow.steps[i]? = some s ∧
    Policy.read (some (i : Int)) s.onFailure = .ok (some (.retry target maxRetries delayMs)) ∧
    target.resolve r.workflow.stepNames = .ok t ∧ y.result.Of r.workflow t

theorem placed_of_lawful {i : Nat} {b : Block} (h : b.Lawful r.workflow i) : r.Placed i b where
  first := h.first
  retried := fun y hy => by
    obtain ⟨target, maxRetries, delayMs, haction, hrepairs⟩ :=
      h.exists_repairs (List.ne_nil_of_mem hy)
    obtain ⟨t, ht, hof⟩ := hrepairs.target
    obtain ⟨s, hs, hread⟩ := h.action
    exact ⟨s, target, maxRetries, delayMs, t, hs, haction ▸ hread, ht, hof y hy⟩

theorem Repairing.placed {p : Repair} {left : Nat} {b : Block} (h : r.Repairing p left b) :
    r.Placed p.failed b where
  first := h.first
  retried := fun y hy => by
    obtain ⟨target, haction, ht⟩ := h.declared
    obtain ⟨s, hs, hread⟩ := h.action
    exact ⟨s, target, p.maxRetries, p.delayMs, p.target, hs, haction ▸ hread, ht, h.target y hy⟩

/-- The deeds of a moment are those of blocks in their places, the last of which may be incomplete,
and pauses. -/
theorem Charted.exists_blocks {m : Moment} (h : r.Charted m) :
    ∃ (blocks : List Block) (pauses : List Double),
      m.deeds = blocks.flatMap Block.deeds ++ pauses.map .pause ∧
        ∀ (i : Nat) (b : Block), blocks[i]? = some b → r.Placed i b := by
  have hplaced {i : Nat} {blocks : List Block} (h : r.Passed i blocks) :
      ∀ (j : Nat) (c : Block), blocks[j]? = some c → r.Placed j c :=
    fun j c hc => placed_of_lawful (h.lawful j c hc)
  obtain ⟨phase, ds, w⟩ := m
  cases phase with
  | turn i =>
    obtain ⟨-, blocks, hpassed, rfl⟩ := h
    exact ⟨blocks, [], by simp, hplaced hpassed⟩
  | failed i =>
    obtain ⟨blocks, x, hpassed, hx, -, rfl⟩ := h
    exact ⟨blocks ++ [⟨none, x, []⟩], [], by simp [Block.deeds],
      hpassed.forall_snoc (hplaced hpassed) ⟨hx, nofun⟩⟩
  | repair p left =>
    obtain ⟨blocks, b, hpassed, hb, rfl⟩ := h
    exact ⟨blocks ++ [b], [], by simp, hpassed.forall_snoc (hplaced hpassed) hb.placed⟩
  | retry p left =>
    obtain ⟨blocks, b, pauses, hpassed, hb, -, rfl⟩ := h
    exact ⟨blocks ++ [b], pauses, by simp, hpassed.forall_snoc (hplaced hpassed) hb.placed⟩
  | ended ending =>
    cases ending with
    | completed =>
      obtain ⟨blocks, hpassed, rfl⟩ := h
      exact ⟨blocks, [], by simp, hplaced hpassed⟩
    | halted name i =>
      obtain ⟨blocks, b, hpassed, hb, -, -, rfl⟩ := h
      exact ⟨blocks ++ [b], [], by simp,
        hpassed.forall_snoc (hplaced hpassed) (placed_of_lawful hb)⟩

/-! ### The blocks at the end of a run -/

/-- How a run has ended, as told by its blocks. -/
structure Ends (r : Run) (ending : RunEnd) (blocks : List Block) : Prop where
  ne_nil : blocks ≠ []
  length_le : blocks.length ≤ r.workflow.steps.length
  /-- Each block is what the failure policy of its step asks for. -/
  lawful : ∀ (i : Nat) (b : Block), blocks[i]? = some b → b.Lawful r.workflow i
  /-- The run has gone on after each block but the last. -/
  passes : ∀ b ∈ blocks.dropLast, b.Passes
  completed : ending = .completed ↔
    blocks.length = r.workflow.steps.length ∧ ∀ b ∈ blocks, b.Passes
  halted : ∀ name i, ending = .halted name i → i = blocks.length - 1 ∧
    (∃ s, r.workflow.steps[i]? = some s ∧ s.name = name) ∧ ∃ b ∈ blocks.getLast?, ¬b.Passes

/-- At the end of a run all blocks are complete. -/
theorem Charted.exists_ends (hacc : r.workflow.errors = .ok []) {ending : RunEnd} {ds : List Deed}
    (h : r.Charted ⟨.ended ending, ds, w⟩) :
    ∃ blocks, ds = blocks.flatMap Block.deeds ∧ r.Ends ending blocks := by
  cases ending with
  | completed =>
    obtain ⟨blocks, hpassed, rfl⟩ := h
    refine ⟨blocks, rfl, ?_⟩
    exact {
      ne_nil := by
        rintro rfl
        exact Workflow.steps_ne_nil_of_errors hacc (List.length_eq_zero_iff.mp hpassed.length.symm)
      length_le := Nat.le_of_eq hpassed.length
      lawful := hpassed.lawful
      passes := fun b hb => hpassed.passes b (List.dropLast_subset _ hb)
      completed := ⟨fun _ => ⟨hpassed.length, hpassed.passes⟩, fun _ => rfl⟩
      halted := nofun }
  | halted name i =>
    obtain ⟨blocks, b, hpassed, hlawful, hpass, ⟨s, hs, hname⟩, rfl⟩ := h
    have hi : i < r.workflow.steps.length := (List.getElem?_eq_some_iff.mp hs).1
    refine ⟨blocks ++ [b], rfl, ?_⟩
    exact {
      ne_nil := by simp
      length_le := by
        rw [List.length_append, hpassed.length]
        exact hi
      lawful := hpassed.lawful_snoc hlawful
      passes := by simpa using hpassed.passes
      completed := ⟨nofun, fun h => absurd (h.2 b (by simp)) hpass⟩
      halted := fun name' i' h => by
        cases h
        exact ⟨by simp [hpassed.length], ⟨s, hs, hname⟩, b, by simp, hpass⟩ }

/-- **A report shows the results of blocks.** Their deeds are what the run has done until it told
the observer of its end; after that nothing has happened but lines in the log. -/
theorem execute_blocks (hcheck : r.workflow.check = .ok ()) {report : Report} {w' : World}
    (h : r.execute.perform out w = (.ok report, w')) :
    ∃ blocks w₁ w₂, report.workflow = r.workflow.name ∧
      report.results = blocks.flatMap Block.results ∧ r.Ends report.ending blocks ∧
      r.Does out w (blocks.flatMap Block.deeds) w₁ ∧
      (notify r.hooks.onRunComplete report.results).perform out w₁ = (.ok (), w₂) ∧
      w₂.Logged w' := by
  have hacc := Workflow.check_eq_ok_iff.mp hcheck
  obtain ⟨ds, w₁, w₂, hreach, hname, hresults, htold, hlogged⟩ := execute_ok h
  obtain ⟨blocks, rfl, hends⟩ := (hreach.charted hacc).exists_ends hacc
  rw [Block.historyOf_flatMap_deeds] at hresults htold
  rw [← hresults] at htold
  exact ⟨blocks, w₁, w₂, hname, hresults, hends, hreach.does, htold, hlogged⟩

end Run

end StepFlow

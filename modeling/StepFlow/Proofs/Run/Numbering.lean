import StepFlow.Proofs.Run.Blocks

/-!
# The numbers of attempts

Every result carries the number of its attempt. A retry counts the attempts of its step that have
been recorded before, and goes on from there. The attempt of a step in its turn does not count: it
always has number one.

The two agree as long as no step is attempted before its turn. A retry may have a later step
attempted, though, and when this step has its turn afterwards, its numbers start again. So the
numbers of a step count its attempts exactly when no earlier block has retried it, or it has not had
its turn.

## Main definitions

* `numbersOf` — the numbers of the attempts of one step
* `Counted` — they count from one

## Main results

* `Run.counted_blocks` — the numbers of one step, over the blocks of a run
* `Run.execute_counted_iff` — when the numbers of a step count its attempts
* `Run.counted_of_no_forward_retry` — they do in a workflow without retries of later steps
-/

namespace StepFlow

open Act

/-- The numbers of the attempts of the step at a position, as they are recorded. -/
def numbersOf (results : List StepResult) (i : Nat) : List Nat :=
  (results.filter (·.index == i)).map (·.attempt)

/-- The numbers of the attempts of the step at a position count them from one. -/
def Counted (results : List StepResult) (i : Nat) : Prop :=
  numbersOf results i = List.range' 1 (Run.attemptsOf results i)

namespace Run

variable {i j : Nat} {past : List StepResult} {x : StepResult}

theorem counted_nil (i : Nat) : Counted [] i := rfl

/-- One more result goes on counting, if it is one of this step. -/
theorem counted_snoc_iff (past : List StepResult) (x : StepResult) (i : Nat) :
    Counted (past ++ [x]) i ↔
      Counted past i ∧ (x.index = i → x.attempt = attemptsOf past i + 1) := by
  unfold Counted numbersOf attemptsOf
  by_cases hi : x.index = i
  · have : [x].filter (·.index == i) = [x] := by simp [hi]
    rw [List.filter_append, this, List.map_append, List.length_append, List.length_singleton,
      List.range'_1_concat, List.map_singleton, List.append_singleton_inj, Nat.add_comm 1]
    exact and_congr_right fun _ => ⟨fun h _ => h, fun h => h hi⟩
  · simp [hi]

theorem attemptsOf_eq_zero_iff {results : List StepResult} :
    attemptsOf results i = 0 ↔ ∀ x ∈ results, x.index ≠ i := by
  simp [attemptsOf, List.filter_eq_nil_iff]

/-! ### The numbers that deeds give -/

/-- After results of the past, deeds number attempts as a run does. -/
def Numbered (past : List StepResult) : List Deed → Prop
  | [] => True
  | .turn x :: ds => x.attempt = 1 ∧ Numbered (past ++ [x]) ds
  | .pause _ :: ds => Numbered past ds
  | .retry x :: ds => x.attempt = attemptsOf past x.index + 1 ∧ Numbered (past ++ [x]) ds

theorem numbered_append (past : List StepResult) (ds es : List Deed) :
    Numbered past (ds ++ es) ↔ Numbered past ds ∧ Numbered (past ++ historyOf ds) es := by
  induction ds generalizing past with
  | nil => simp [Numbered]
  | cons d ds ih =>
    cases d with
    | turn x =>
      have : historyOf (.turn x :: ds) = x :: historyOf ds := rfl
      simp [Numbered, ih, this, and_assoc]
    | pause seconds => exact ih past
    | retry x => simp [Numbered, ih, and_assoc]

/-- The deeds of a run number attempts as it does. -/
theorem Does.numbered {r : Run} {out : Surroundings} {w w' : World} {ds : List Deed}
    (h : r.Does out w ds w') : Numbered [] ds := by
  induction h with
  | nothing => trivial
  | log _ _ ih => exact ih
  | turn _ _ hx ih =>
    obtain ⟨-, -, hnumber⟩ := labels_of_attempt_ok hx
    exact (numbered_append ..).mpr ⟨ih, hnumber, trivial⟩
  | pause _ _ ih => exact (numbered_append ..).mpr ⟨ih, trivial⟩
  | retry _ _ hx ih =>
    obtain ⟨-, -, hnumber⟩ := labels_of_attempt_ok hx
    exact (numbered_append ..).mpr ⟨ih, by simpa using hnumber, trivial⟩

/-! ### The numbers of one step -/

/-- Retries go on counting. -/
theorem counted_retrials {ys : List Retrial} (h : Numbered past (ys.flatMap Retrial.deeds)) :
    Counted (past ++ ys.map Retrial.result) i ↔ Counted past i := by
  induction ys generalizing past with
  | nil => simp
  | cons y ys ih =>
    rw [List.flatMap_cons, Retrial.deeds, List.append_assoc] at h
    obtain ⟨-, hnumber, hrest⟩ := (numbered_append ..).mp h
    rw [historyOf_map_pause, List.append_nil] at hnumber hrest
    have hcons : past ++ (y :: ys).map Retrial.result =
        past ++ [y.result] ++ ys.map Retrial.result := by simp
    rw [hcons, ih hrest, counted_snoc_iff]
    refine and_iff_left fun hi => ?_
    rw [hnumber, hi]

/-- A block goes on counting the attempts of the step that has its turn, if there have been none. -/
theorem counted_block {b : Block} (h : Numbered past b.deeds) :
    Counted (past ++ b.results) i ↔
      Counted past i ∧ (b.first.index = i → attemptsOf past i = 0) := by
  obtain ⟨hnumber, hrest⟩ : b.first.attempt = 1 ∧
    Numbered (past ++ [b.first]) (b.retrials.flatMap Retrial.deeds) := h
  have hcons : past ++ b.results = past ++ [b.first] ++ b.retrials.map Retrial.result := by
    simp [Block.results]
  rw [hcons, counted_retrials hrest, counted_snoc_iff, hnumber]
  simp only [Nat.right_eq_add, eq_comm]

/-- Blocks of the steps from position `j` on go on counting the attempts of the step at position
`i`, if it has not been attempted before its block. -/
theorem counted_blocks {blocks : List Block}
    (hindex : ∀ (k : Nat) (b : Block), blocks[k]? = some b → b.first.index = j + k)
    (h : Numbered past (blocks.flatMap Block.deeds)) :
    Counted (past ++ blocks.flatMap Block.results) i ↔
      Counted past i ∧ (j ≤ i → i < j + blocks.length →
        attemptsOf (past ++ (blocks.take (i - j)).flatMap Block.results) i = 0) := by
  induction blocks generalizing past j with
  | nil =>
    simp only [List.flatMap_nil, List.append_nil, List.length_nil, Nat.add_zero]
    exact (and_iff_left fun hle hlt => absurd hlt (Nat.not_lt.mpr hle)).symm
  | cons b blocks ih =>
    obtain ⟨hb, hrest⟩ := (numbered_append ..).mp h
    rw [Block.historyOf_deeds] at hrest
    have hfirst : b.first.index = j := hindex 0 b rfl
    have hnext : ∀ (k : Nat) (c : Block), blocks[k]? = some c → c.first.index = j + 1 + k := by
      intro k c hc
      rw [hindex (k + 1) c hc]
      omega
    rw [List.flatMap_cons, ← List.append_assoc, ih hnext hrest, counted_block hb, hfirst, and_assoc]
    refine and_congr_right fun _ => ?_
    rcases Nat.lt_trichotomy j i with hlt | rfl | hgt
    · have htake : (b :: blocks).take (i - j) = b :: blocks.take (i - (j + 1)) := by
        rw [show i - j = i - (j + 1) + 1 by omega, List.take_succ_cons]
      rw [htake, List.flatMap_cons, ← List.append_assoc, List.length_cons]
      constructor
      · rintro ⟨-, h⟩ - hi
        exact h hlt (by omega)
      · intro h
        exact ⟨fun hj => absurd hj (Nat.ne_of_lt hlt), fun _ hi => h (Nat.le_of_lt hlt) (by omega)⟩
    · simp only [Nat.sub_self, List.take_zero, List.flatMap_nil, List.append_nil]
      constructor
      · rintro ⟨h, -⟩ - -
        exact h trivial
      · intro h
        exact ⟨fun _ => h (Nat.le_refl _) (by simp), fun hle => by omega⟩
    · constructor
      · intro _ hle
        omega
      · intro _
        exact ⟨fun hj => by omega, fun hle => by omega⟩

/-! ### Steps that are attempted before their turn -/

/-- The step at a position has had its turn, and a block before has retried it. -/
def Preempted (blocks : List Block) (i : Nat) : Prop :=
  i < blocks.length ∧ ∃ b ∈ blocks.take i, ∃ y ∈ b.retrials, y.result.index = i

variable {r : Run} {out : Surroundings} {w w' : World} {report : Report} {ending : RunEnd}
  {blocks : List Block}

/-- Before its own block, a step can only have been retried. -/
theorem attemptsOf_take_eq_zero_iff
    (hindex : ∀ (k : Nat) (b : Block), blocks[k]? = some b → b.first.index = k) :
    attemptsOf ((blocks.take i).flatMap Block.results) i = 0 ↔
      ¬∃ b ∈ blocks.take i, ∃ y ∈ b.retrials, y.result.index = i := by
  rw [attemptsOf_eq_zero_iff]
  constructor
  · rintro h ⟨b, hb, y, hy, hi⟩
    have hmem : y.result ∈ b.results := by simpa [Block.results] using .inr ⟨y, hy, rfl⟩
    exact h y.result (List.mem_flatMap.mpr ⟨b, hb, hmem⟩) hi
  · intro h x hx hi
    obtain ⟨b, hb, hx⟩ := List.mem_flatMap.mp hx
    rcases List.mem_cons.mp hx with rfl | hx
    · obtain ⟨k, hk, hbk⟩ := List.mem_take_iff_getElem.mp hb
      have := hindex k b (List.getElem?_eq_some_iff.mpr ⟨by omega, hbk⟩)
      omega
    · obtain ⟨y, hy, rfl⟩ := List.mem_map.mp hx
      exact h ⟨b, hb, y, hy, hi⟩

/-- The numbers of a step count its attempts unless it has been preempted. -/
theorem Ends.counted_iff (h : r.Ends ending blocks)
    (hdoes : r.Does out w (blocks.flatMap Block.deeds) w') (i : Nat) :
    Counted (blocks.flatMap Block.results) i ↔ ¬Preempted blocks i := by
  have hindex (k : Nat) (b : Block) (hb : blocks[k]? = some b) : b.first.index = k :=
    (h.lawful k b hb).first.1
  have hcount := counted_blocks (i := i) (j := 0) (by simpa using hindex) hdoes.numbered
  rw [List.nil_append, List.nil_append, Nat.sub_zero, attemptsOf_take_eq_zero_iff hindex] at hcount
  simpa [counted_nil, Preempted] using hcount

/-- A step that is preempted is the target of a retry that an earlier step declares. -/
theorem Ends.exists_retry_of_preempted (h : r.Ends ending blocks) (hi : Preempted blocks i) :
    ∃ j s, j < i ∧ r.workflow.steps[j]? = some s ∧ ∃ target maxRetries delayMs,
      Policy.read (some (j : Int)) s.onFailure = .ok (some (.retry target maxRetries delayMs)) ∧
      RetryTarget.resolve r.workflow.stepNames target = .ok i := by
  obtain ⟨-, b, hb, y, hy, rfl⟩ := hi
  obtain ⟨j, hj, hbj⟩ := List.mem_take_iff_getElem.mp hb
  have hlawful := h.lawful j b (List.getElem?_eq_some_iff.mpr ⟨by omega, hbj⟩)
  obtain ⟨s, hs, hread⟩ := hlawful.action
  obtain ⟨target, maxRetries, delayMs, haction, hrepairs⟩ :=
    hlawful.exists_repairs (List.ne_nil_of_mem hy)
  obtain ⟨t, hres, hof⟩ := hrepairs.target
  rw [haction] at hread
  rw [← (hof y hy).1] at hres
  exact ⟨j, s, by omega, hs, target, maxRetries, delayMs, hread, hres⟩

/-- Where no step has a later one retried, numbers count attempts. -/
theorem counted_of_no_forward_retry (hcheck : r.workflow.check = .ok ())
    (hback : ∀ (j : Nat) (s : Step) target maxRetries delayMs t, r.workflow.steps[j]? = some s →
      Policy.read (some (j : Int)) s.onFailure = .ok (some (.retry target maxRetries delayMs)) →
      RetryTarget.resolve r.workflow.stepNames target = .ok t → t ≤ j)
    (h : r.execute.perform out w = (.ok report, w')) (i : Nat) : Counted report.results i := by
  obtain ⟨blocks, w₁, w₂, -, hresults, hends, hdoes, -⟩ := execute_blocks hcheck h
  rw [hresults, hends.counted_iff hdoes]
  intro hi
  obtain ⟨j, s, hlt, hs, target, maxRetries, delayMs, hread, hres⟩ :=
    hends.exists_retry_of_preempted hi
  exact absurd (hback j s _ _ _ i hs hread hres) (Nat.not_le.mpr hlt)

/-- **When numbers count attempts.** In a report of a run of an accepted workflow, the numbers of a
step count its attempts from one exactly when the step has not been preempted: when no block before
its own has retried it, or when it has not had its turn. -/
theorem execute_counted_iff (hcheck : r.workflow.check = .ok ())
    (h : r.execute.perform out w = (.ok report, w')) :
    ∃ blocks, report.results = blocks.flatMap Block.results ∧ r.Ends report.ending blocks ∧
      ∀ i, Counted report.results i ↔ ¬Preempted blocks i := by
  obtain ⟨blocks, w₁, w₂, -, hresults, hends, hdoes, -⟩ := execute_blocks hcheck h
  refine ⟨blocks, hresults, hends, fun i => ?_⟩
  rw [hresults]
  exact hends.counted_iff hdoes i

theorem execute_counted_iff_mended :
    mended.workflow.check = .ok () ∧
      ∃ report w', mended.execute.perform .silent {} = (.ok report, w') ∧
        ∃ blocks, report.results = blocks.flatMap Block.results ∧
          mended.Ends report.ending blocks ∧
          ∀ i, Counted report.results i ↔ ¬Preempted blocks i := by
  obtain ⟨report, w', hrun⟩ := exists_report_mended
  exact ⟨check_mended, report, w', hrun, execute_counted_iff check_mended hrun⟩

/-- The second step has been attempted in place of the first before its turn: both of its attempts
have number one. -/
theorem not_counted_mended :
    mended.workflow.check = .ok () ∧
      ∃ report w', mended.execute.perform .silent {} = (.ok report, w') ∧
        numbersOf report.results 1 = [1, 1] ∧ ¬Counted report.results 1 := by
  have hnumbers : (mended.execute.perform .silent {}).1.toOption.map
      (fun report => numbersOf report.results 1) = some [1, 1] := by decide +kernel
  obtain ⟨report, w', hrun⟩ := exists_report_mended
  rw [hrun] at hnumbers
  have h : numbersOf report.results 1 = [1, 1] := Option.some.inj hnumbers
  refine ⟨check_mended, report, w', hrun, h, ?_⟩
  have hlength : attemptsOf report.results 1 = 2 := by
    simpa [numbersOf, attemptsOf] using congrArg List.length h
  rw [Counted, h, hlength]
  decide

end Run

end StepFlow

import StepFlow.Proofs.Run.Blocks
import StepFlow.Proofs.Run.Repetition

/-!
# Linear runs

A run is linear as long as it makes no retry. Then its history grows by one result for every step
that has had its turn, and so the numbers of attempts, which templates refer to, are the positions of
steps as the workflow declares them. What a template finds under a number or a name can be told from
the declarations: the output of an earlier step, and nothing for the step itself and those after it.

In a run that is not linear this fails from the first retry on, since every retry is one more result.

That all this holds is read off the blocks of the run. Without retries every block is a single
attempt, and the run can only have gone on after it because it succeeded, or because its step is to
be passed over when it fails.

## Main definitions

* `Linear` — there is no retry among deeds
* `Run.InPlace` — the results of a history are those of the steps at their places
* `outputOfStep` — the output of the step at a position
* `Run.Flows` — what a step sees of the steps before it

## Main results

* `Run.Reaches.inPlace` — the history of a linear run is in place
* `Run.Reaches.flows` — what a step sees when its turn has come
* `Run.Reaches.linear` — runs of workflows that declare no retries are linear
* `Run.linear_flow` — both, for all moments of a run and for its report
-/

namespace StepFlow

open Act

/-- There is no retry among deeds. -/
def Linear (ds : List Deed) : Prop := ∀ x, Deed.retry x ∉ ds

/-- The output of the step at a position: that of its first result, empty when there is none. -/
def outputOfStep (results : List StepResult) (i : Nat) : String :=
  ((results.find? (·.index == i)).map (·.output)).getD ""

namespace Run

/-- The results of a history are those of the steps at their places, each from its first attempt. -/
def InPlace (r : Run) (results : List StepResult) : Prop :=
  ∀ (i : Nat) (x : StepResult), results[i]? = some x → x.Of r.workflow i ∧ x.attempt = 1

/-- What the step at position `j` sees of the steps before it, when its templates are resolved after
these results. -/
structure Flows (r : Run) (j : Nat) (results : List StepResult) : Prop where
  /-- There is one result for every step before. -/
  length : results.length = j
  previous : (r.scope results).previous = if j = 0 then "" else outputOfStep results (j - 1)
  /-- A number is the position of a step; the step itself and those after it have no output yet. -/
  outputAt : ∀ n : Int, (r.scope results).outputAt n =
    if 0 ≤ n ∧ n < j then outputOfStep results n.toNat else ""
  /-- A name is that of the first step before which is declared with it. -/
  outputOf : ∀ name, (r.scope results).outputOf name =
    (((r.workflow.stepNames.take j).findIdx? (· == name)).map (outputOfStep results)).getD ""
  /-- A step that has failed before is to be passed over, and its output is empty. -/
  failed : ∀ (i : Nat) (s : Step) (x : StepResult), r.workflow.steps[i]? = some s →
    results[i]? = some x → x.success = false →
    Policy.read (some (i : Int)) s.onFailure = .ok (some .proceed) ∧ outputOfStep results i = ""

variable {r : Run} {out : Surroundings} {w w₁ : World} {ds : List Deed}

/-! ### Blocks without retries -/

/-- Blocks without retries are attempts of steps in their turn. -/
theorem retrials_eq_nil {blocks : List Block} (h : Linear (blocks.flatMap Block.deeds)) :
    ∀ b ∈ blocks, b.retrials = [] := by
  intro b hb
  refine List.eq_nil_iff_forall_not_mem.mpr fun y hy => h y.result ?_
  have hdeed : Deed.retry y.result ∈ b.retrials.flatMap Retrial.deeds :=
    List.mem_flatMap.mpr ⟨y, hy, by simp [Retrial.deeds]⟩
  exact List.mem_flatMap.mpr ⟨b, hb, List.mem_cons_of_mem _ hdeed⟩

theorem flatMap_results_of_retrials {blocks : List Block} (h : ∀ b ∈ blocks, b.retrials = []) :
    blocks.flatMap Block.results = blocks.map Block.first := by
  induction blocks with
  | nil => rfl
  | cons b blocks ih =>
    rw [List.flatMap_cons, List.map_cons, ih fun c hc => h c (List.mem_cons_of_mem _ hc),
      Block.results, h b List.mem_cons_self]
    rfl

/-- Without retries every result is that of an attempt with number one. -/
theorem Does.attempt_eq_one (h : r.Does out w ds w₁) (hlinear : Linear ds) :
    ∀ x ∈ historyOf ds, x.attempt = 1 := by
  have hinit {ds : List Deed} {d : Deed} (h : Linear (ds ++ [d])) : Linear ds :=
    fun x hx => h x (List.mem_append_left _ hx)
  induction h with
  | nothing => simp
  | log _ _ ih => exact ih hlinear
  | turn _ _ hx ih =>
    obtain ⟨-, -, hnumber⟩ := labels_of_attempt_ok hx
    simpa [or_imp, forall_and, hnumber] using ih (hinit hlinear)
  | pause _ _ ih => simpa using ih (hinit hlinear)
  | retry _ _ _ _ => exact absurd (List.mem_append_right _ (List.mem_singleton.mpr rfl)) (hlinear _)

/-- **The history of a linear run is in place.** -/
theorem Reaches.inPlace (hacc : r.workflow.errors = .ok []) {m : Moment} (h : r.Reaches out w m)
    (hlinear : Linear m.deeds) : r.InPlace (historyOf m.deeds) := by
  obtain ⟨blocks, pauses, hdeeds, hplaced⟩ := (h.charted hacc).exists_blocks
  have hblocks : Linear (blocks.flatMap Block.deeds) := fun x hx =>
    hlinear x (hdeeds ▸ List.mem_append_left _ hx)
  have hhistory : historyOf m.deeds = blocks.map Block.first := by
    rw [hdeeds, historyOf_append, historyOf_map_pause, List.append_nil,
      Block.historyOf_flatMap_deeds, flatMap_results_of_retrials (retrials_eq_nil hblocks)]
  intro i x hx
  have hone := h.does.attempt_eq_one hlinear x (List.mem_of_getElem? hx)
  rw [hhistory, List.getElem?_map, Option.map_eq_some_iff] at hx
  obtain ⟨b, hb, rfl⟩ := hx
  exact ⟨(hplaced i b hb).first, hone⟩

/-! ### What a step sees -/

namespace InPlace

variable {results : List StepResult}

/-- In a history that is in place, the result of a step is at the position of the step. -/
theorem find?_index_eq (h : r.InPlace results) (i : Nat) :
    results.find? (·.index == i) = results[i]? := by
  cases hi : results[i]? with
  | some x =>
    obtain ⟨hlt, rfl⟩ := List.getElem?_eq_some_iff.mp hi
    refine List.find?_eq_some_iff_getElem.mpr ⟨by simpa using (h i _ hi).1.1, i, hlt, rfl, ?_⟩
    intro j hj
    have hindex := (h j _ (List.getElem?_eq_getElem (Nat.lt_trans hj hlt))).1.1
    simpa [hindex] using Nat.ne_of_lt hj
  | none =>
    refine List.find?_eq_none.mpr fun x hx => ?_
    obtain ⟨j, hj, rfl⟩ := List.getElem_of_mem hx
    have hindex := (h j _ (List.getElem?_eq_getElem hj)).1.1
    have hle := List.getElem?_eq_none_iff.mp hi
    simpa [hindex] using Nat.ne_of_lt (Nat.lt_of_lt_of_le hj hle)

theorem outputOfStep_eq (h : r.InPlace results) (i : Nat) :
    outputOfStep results i = (results[i]?.map (·.output)).getD "" := by
  rw [outputOfStep, h.find?_index_eq]

/-- The names of the results are those that the steps are declared with. -/
theorem map_name_eq (h : r.InPlace results) :
    results.map (·.name) = r.workflow.stepNames.take results.length := by
  refine List.ext_getElem? fun i => ?_
  rw [List.getElem?_map, List.getElem?_take]
  split
  · rename_i hlt
    have hx := List.getElem?_eq_getElem hlt
    rw [hx, (h i _ hx).1.getElem?_stepNames, Option.map_some]
  · rename_i hge
    rw [List.getElem?_eq_none (Nat.le_of_not_lt hge)]
    rfl

theorem previous_eq (h : r.InPlace results) : (r.scope results).previous =
    if results.length = 0 then "" else outputOfStep results (results.length - 1) := by
  rw [h.outputOfStep_eq, scope, Scope.previous, outputsOf, List.getLast?_map, Option.map_map,
    List.getLast?_eq_getElem?]
  split
  · rw [List.getElem?_eq_none (by omega)]
    rfl
  · rfl

theorem outputAt_eq (h : r.InPlace results) (n : Int) : (r.scope results).outputAt n =
    if 0 ≤ n ∧ n < results.length then outputOfStep results n.toNat else "" := by
  rw [h.outputOfStep_eq, scope, Scope.outputAt, outputsOf, List.getElem?_map, Option.map_map]
  by_cases hn : 0 ≤ n
  · by_cases hlt : n < results.length
    · rw [if_pos hn, if_pos ⟨hn, hlt⟩]
      rfl
    · rw [if_pos hn, if_neg fun h => hlt h.2, List.getElem?_eq_none (by omega)]
      rfl
  · rw [if_neg hn, if_neg fun h => hn h.1]

theorem outputOf_eq (h : r.InPlace results) (name : String) : (r.scope results).outputOf name =
    (((r.workflow.stepNames.take results.length).findIdx? (· == name)).map
      (outputOfStep results)).getD "" := by
  rw [← h.map_name_eq, List.findIdx?_map, scope, Scope.outputOf, outputsOf, List.find?_map,
    Option.map_map]
  have hfind : (results.find? fun x => x.name == name) =
      (results.findIdx? fun x => x.name == name).bind (results[·]?) :=
    List.find?_eq_bind_findIdx?_getElem?
  change ((results.find? fun x => x.name == name).map _).getD "" =
    ((results.findIdx? fun x => x.name == name).map _).getD ""
  rw [hfind]
  cases results.findIdx? fun x => x.name == name with
  | none => rfl
  | some i => exact (h.outputOfStep_eq i).symm

end InPlace

/-- **What a step sees when its turn has come** in a linear run. -/
theorem Reaches.flows (hacc : r.workflow.errors = .ok []) {j : Nat}
    (h : r.Reaches out w ⟨.turn j, ds, w₁⟩) (hlinear : Linear ds) :
    r.Flows j (historyOf ds) := by
  have hplace : r.InPlace (historyOf ds) := h.inPlace hacc hlinear
  obtain ⟨-, blocks, hpassed, hdeeds⟩ := h.charted hacc
  have hretrials := retrials_eq_nil (hdeeds ▸ hlinear)
  have hhistory : historyOf ds = blocks.map Block.first := by
    rw [hdeeds, Block.historyOf_flatMap_deeds, flatMap_results_of_retrials hretrials]
  obtain rfl : (historyOf ds).length = j := by
    rw [hhistory, List.length_map, hpassed.length]
  exact {
    length := rfl
    previous := hplace.previous_eq
    outputAt := hplace.outputAt_eq
    outputOf := hplace.outputOf_eq
    failed := fun i s x hs hx hfail => by
      have hempty := h.does.output_eq_empty x (List.mem_of_getElem? hx) hfail
      refine ⟨?_, by rw [hplace.outputOfStep_eq, hx, Option.map_some, Option.getD_some, hempty]⟩
      -- the run has gone on after a failure that no retry has mended
      rw [hhistory, List.getElem?_map, Option.map_eq_some_iff] at hx
      obtain ⟨b, hb, rfl⟩ := hx
      have hmem := List.mem_of_getElem? hb
      obtain ⟨t, ht, hread⟩ := (hpassed.lawful i b hb).action
      cases hs.symm.trans ht
      rcases (Block.passes_iff_of_retrials_eq_nil (hretrials b hmem)).mp (hpassed.passes b hmem)
        with hsucc | hproceed
      · cases hfail.symm.trans hsucc
      · exact hproceed ▸ hread }

/-! ### Runs that are linear -/

/-- No step declares a retry. -/
def WithoutRetries (r : Run) : Prop :=
  ∀ (i : Nat) (s : Step), r.workflow.steps[i]? = some s → ∀ target maxRetries delayMs,
    Policy.read (some (i : Int)) s.onFailure ≠ .ok (some (.retry target maxRetries delayMs))

/-- There has been no retry, and none is to come next. -/
structure Moment.Calm (m : Moment) : Prop where
  linear : Linear m.deeds
  repair : ∀ p left, m.phase ≠ .repair p left
  retry : ∀ p left, m.phase ≠ .retry p left

/-- A failure does not lead to a repair where no retries are declared. -/
theorem Moment.Calm.of_moves (hnone : r.WithoutRetries) {m m' : Moment} (h : m.Calm)
    (hmove : r.Moves out m m') : m'.Calm := by
  have hsnoc {ds : List Deed} {x : StepResult} (h : Linear ds) : Linear (ds ++ [.turn x]) := by
    intro y hy
    rcases List.mem_append.mp hy with hy | hy
    · exact h y hy
    · cases List.mem_singleton.mp hy
  cases hmove with
  | finish _ => exact ⟨h.linear, nofun, nofun⟩
  | succeed _ _ _ => exact ⟨hsnoc h.linear, nofun, nofun⟩
  | fail _ _ _ => exact ⟨hsnoc h.linear, nofun, nofun⟩
  | halt _ _ _ => exact ⟨h.linear, nofun, nofun⟩
  | proceed _ _ _ => exact ⟨h.linear, nofun, nofun⟩
  | repair hs hv =>
    obtain ⟨_, hread, -⟩ := read_of_verdict_repair hv
    exact absurd hread (hnone _ _ hs _ _ _)
  | exhaust _ _ => exact absurd rfl (h.repair _ _)
  | pass _ _ => exact absurd rfl (h.repair _ _)
  | pause _ _ _ => exact absurd rfl (h.repair _ _)
  | mend _ _ _ => exact absurd rfl (h.retry _ _)
  | miss _ _ _ => exact absurd rfl (h.retry _ _)

/-- **Runs of workflows that declare no retries are linear.** -/
theorem Reaches.linear (hnone : r.WithoutRetries) {m : Moment} (h : r.Reaches out w m) :
    Linear m.deeds := by
  have hcalm : m.Calm := by
    induction h with
    | start _ => exact ⟨fun _ => List.not_mem_nil, nofun, nofun⟩
    | move _ hmove ih => exact ih.of_moves hnone hmove
  exact hcalm.linear

/-- **The data flow of linear runs.** As long as a run of an accepted workflow makes no retry, its
results are those of the steps at their places, and a step sees the outputs of the steps that are
declared before it. The report of a run is about such a history too. -/
theorem linear_flow (hcheck : r.workflow.check = .ok ()) :
    (∀ m, r.Reaches out w m → Linear m.deeds → r.InPlace (historyOf m.deeds)) ∧
    (∀ j ds w₁, r.Reaches out w ⟨.turn j, ds, w₁⟩ → Linear ds → r.Flows j (historyOf ds)) ∧
    ∀ report w', r.execute.perform out w = (.ok report, w') →
      ∃ ds w₁, r.Reaches out w ⟨.ended report.ending, ds, w₁⟩ ∧ report.results = historyOf ds ∧
        (Linear ds → r.InPlace report.results) := by
  have hacc := Workflow.check_eq_ok_iff.mp hcheck
  refine ⟨fun m hreach => hreach.inPlace hacc, fun j ds w₁ hreach => hreach.flows hacc,
    fun report w' h => ?_⟩
  obtain ⟨ds, w₁, -, hreach, -, hresults, -, -⟩ := execute_ok h
  exact ⟨ds, w₁, hreach, hresults, fun hlinear => hresults ▸ hreach.inPlace hacc hlinear⟩

/-- A step that fails and is passed over, and a step after it. -/
def tolerant : Run where
  workflow := {
    name := "release"
    steps := [
      { name := "build", type := .str "command", onFailure := .action .proceed },
      { name := "approve", type := .str "human_approval" } ] }

theorem linear_flow_tolerant :
    tolerant.workflow.check = .ok () ∧
      (∃ ds w₁, tolerant.Reaches .silent {} ⟨.turn 1, ds, w₁⟩ ∧ Linear ds ∧
        tolerant.Flows 1 (historyOf ds)) ∧
      ∃ report w', tolerant.execute.perform .silent {} = (.ok report, w') ∧
        tolerant.InPlace report.results := by
  have hcheck : tolerant.workflow.check = .ok () := rfl
  have hnone : tolerant.WithoutRetries := by
    intro i s hs
    match i, hs with
    | 0, rfl => exact nofun
    | 1, rfl => exact nofun
  let s := tolerant.workflow.steps.head (List.cons_ne_nil _ _)
  have hs : tolerant.workflow.steps[0]? = some s := rfl
  obtain ⟨x, w₁, hx, hfail⟩ : ∃ x w₁, (tolerant.attempt [] 0 s 1).perform .silent {} = (.ok x, w₁) ∧
      x.success = false := exists_ok_of_map (by decide +kernel)
  have hreach : tolerant.Reaches .silent {} ⟨.turn 1, [.turn x], w₁⟩ :=
    .move (.move (.start (.refl _)) (.fail hs hx hfail)) (.proceed hs rfl (.refl _))
  obtain ⟨report, w', hrun⟩ : ∃ report w', tolerant.execute.perform .silent {} = (.ok report, w') :=
    exists_ok_of_isOk (by decide +kernel)
  obtain ⟨-, hflows, hreport⟩ := linear_flow hcheck
  obtain ⟨ds, w₂, hend, -, hplace⟩ := hreport report w' hrun
  exact ⟨hcheck, ⟨_, _, hreach, hreach.linear hnone, hflows _ _ _ hreach (hreach.linear hnone)⟩,
    report, w', hrun, hplace (hend.linear hnone)⟩

end Run

end StepFlow

import StepFlow.Proofs.Failure.Compact
import StepFlow.Proofs.Run.Blocks
import StepFlow.Proofs.Run.Insertion

/-!
# Steps named in quotes

A failure policy and a template can both name a step in quotes: `retry_step["build"]` and
`$step["build"].output`. The template takes what is quoted for a name, whatever it looks like. The
policy does not: the quotes are gone when it is decided between a number and a name, so quoted
digits are a position. A step whose name is a numeral can then not be named as a target, unless its
position happens to be that number. What is meant for it goes to another step, or to none.

On the side of the template there is less to go wrong. A name is looked up among the results of a
run, where the first result of a name is that of the first step with this name. The exception is a
namesake further on in the workflow, of which a retry by number may have left a result before.

## Main definitions

* `Policy.quotedRetry`, `Template.quotedReference` — the two ways to name a step in quotes
* `Policy.Quotable` — names that can stand in quotes
* `Workflow.Quoted` — what a policy and a template make of a quoted name

## Main results

* `Policy.read_quotedRetry_eq_ok_iff` — how a quoted name is read as a target
* `Run.Reaches.first_named` — whose result the first one of a name is
* `Workflow.quoted` — when a quoted target is the step of that name
* `Workflow.not_named_numeral` — a step that cannot be named
-/

namespace StepFlow

open Text (isDecimal isDigitLike trim)

/-! ### Names in quotes -/

namespace Policy

/-- A name that can stand in quotes: it is not empty, has no quotes or brackets, and there are no
blanks around it. -/
structure Quotable (s : String) : Prop where
  ne_empty : s ≠ ""
  plain : ∀ c ∈ s.toList, isNameChar c = true
  trimmed : Text.strip s = s

/-- A policy that names a step in quotes. -/
def quotedRetry (s : String) : String := "retry_step[\"" ++ s ++ "\"]"

variable {s : String} {own : Option Int} {answer : Option FailureAction}

namespace Quotable

variable (h : Quotable s)

include h

theorem toList_ne_nil : s.toList ≠ [] := by
  simpa using h.ne_empty

theorem trim_eq : trim s.toList = s.toList := by
  simpa [Text.strip] using congrArg String.toList h.trimmed

end Quotable

/-- The body of a policy that names a step in quotes is the name. -/
theorem compact?_quotedRetry (h : Quotable s) :
    compact? (trim (quotedRetry s).toList) = some s.toList := by
  have htext : trim (quotedRetry s).toList =
      "retry_step[".toList ++ ('"' :: (s.toList ++ ['"']) ++ [']']) := by
    have hends := @Text.trim_of_ends 'r' ']' (by decide) (by decide)
      ("etry_step[".toList ++ '"' :: (s.toList ++ ['"']))
    simpa [quotedRetry] using hends
  rw [compact?, bracketed?_eq_some_iff.mpr htext]
  exact @body?_quoted s.toList '"' [] [] rfl (List.forall_mem_nil _) (List.forall_mem_nil _)
    h.toList_ne_nil h.plain

/-- **How a quoted name is read**: as any target is, without regard to the quotes. -/
theorem read_quotedRetry_eq_ok_iff (h : Quotable s) :
    read own (.str (quotedRetry s)) = .ok answer ↔
      ∃ target, Denotes s.toList target ∧ answer = some (.retry target 1 0) := by
  have hbody := compact?_quotedRetry h
  constructor
  · intro hread
    obtain ⟨action, rfl, hcompact⟩ := map_some_eq_ok_iff.mp hread
    obtain ⟨hword, -⟩ | ⟨hword, -⟩ | ⟨body, target, hfound, hdenotes, rfl⟩ :=
      readCompact_eq_ok_iff.mp hcompact
    · rw [hword] at hbody
      cases hbody
    · rw [hword] at hbody
      cases hbody
    · obtain rfl := Option.some.inj (hbody.symm.trans hfound)
      rw [h.trim_eq] at hdenotes
      exact ⟨target, hdenotes, rfl⟩
  · rintro ⟨target, hdenotes, rfl⟩
    rw [← h.trim_eq] at hdenotes
    exact read_of_readCompact
      (readCompact_eq_ok_iff.mpr (.inr (.inr ⟨_, target, hbody, hdenotes, rfl⟩)))

/-- The target of a quoted name is the step at a position if the name is that of the step and no
numeral, or if it is the numeral of the position. -/
theorem exists_target_iff (h : Quotable s) {names : List String} {i : Nat}
    (hi : names.findIdx? (· == s) = some i) :
    (∃ target, read own (.str (quotedRetry s)) = .ok (some (.retry target 1 0)) ∧
        target.resolve names = .ok i) ↔
      (∃ c ∈ s.toList, isDigitLike c = false) ∨
        ((∀ c ∈ s.toList, isDecimal c = true) ∧ s.toList.length ≤ digitLimit ∧
          numberOf s.toList = i) := by
  simp only [read_quotedRetry_eq_ok_iff h]
  constructor
  · rintro ⟨target, ⟨_, hdenotes, heq⟩, hresolve⟩
    cases heq
    cases hdenotes with
    | index hne hdecimal hlength =>
      obtain ⟨hnumber, -⟩ := RetryTarget.resolve_index_eq_ok_iff.mp hresolve
      exact .inr ⟨hdecimal, hlength, Int.ofNat_inj.mp hnumber⟩
    | name hname => exact .inl hname
  · rintro (hname | ⟨hdecimal, hlength, rfl⟩)
    · refine ⟨_, ⟨_, .name hname, rfl⟩, RetryTarget.resolve_name_eq_ok_iff.mpr ?_⟩
      rwa [String.ofList_toList]
    · refine ⟨_, ⟨_, .index h.toList_ne_nil hdecimal hlength, rfl⟩, ?_⟩
      exact RetryTarget.resolve_index_eq_ok_iff.mpr
        ⟨rfl, (List.findIdx?_eq_some_iff_findIdx_eq.mp hi).1⟩

end Policy

/-! ### Names in templates -/

namespace Template

/-- A reference to the output of a step that is named in quotes. -/
def quotedReference (s : String) : String := "$step[\"" ++ s ++ "\"].output"

/-- A quoted name is looked up as it is, if it does not look like a reference of an earlier pass. -/
theorem resolve_quotedReference {s : String} (h : Policy.Quotable s)
    (hinput : ¬inputMark <:+: s.toList) (hprevious : ¬previousMark <:+: s.toList) (scope : Scope) :
    resolve scope (quotedReference s) =
      (finish scope 4 (scope.outputOf s).toList).map String.ofList := by
  have hp : (Placeholder.outputOf .double s.toList).Intact :=
    ⟨h.toList_ne_nil, h.plain, ⟨hinput, hprevious⟩, nofun⟩
  have hchars : (quotedReference s).toList = (Placeholder.outputOf .double s.toList).chars := by
    have hmarks : "$step[\"".toList = stepMark ++ ['"'] ∧
        "\"].output".toList = '"' :: outputMark := by decide
    rw [quotedReference, String.toList_append, String.toList_append, hmarks.1, hmarks.2]
    simp only [Placeholder.chars, Quoting.mark, List.append_assoc, List.cons_append,
      List.nil_append]
  have htext : (Placeholder.outputOf .double s.toList).text scope = (scope.outputOf s).toList := by
    rw [Placeholder.text, String.ofList_toList, Scope.outputOf]
  rw [resolve, hchars, Placeholder.resolveChars_chars hp, htext]
  rfl

end Template

/-! ### The first position of a name -/

section

variable {names : List String} {name found : String} {i k : Nat}

/-- Where a name is found, it stands. -/
theorem eq_of_findIdx? (hi : names.findIdx? (· == name) = some i) (h : names[i]? = some found) :
    found = name := by
  obtain ⟨hlt, hfound, -⟩ := List.findIdx?_eq_some_iff_getElem.mp hi
  rw [List.getElem?_eq_getElem hlt, Option.some_inj] at h
  simpa [h] using hfound

/-- Before the place where it is found, a name does not stand. -/
theorem le_of_findIdx? (hi : names.findIdx? (· == name) = some i) (h : names[k]? = some name) :
    i ≤ k := by
  obtain ⟨_, -, hbefore⟩ := List.findIdx?_eq_some_iff_getElem.mp hi
  obtain ⟨hlt, hk⟩ := List.getElem?_eq_some_iff.mp h
  by_contra hki
  exact hbefore k (Nat.lt_of_not_le hki) (by simp [hk])

end

/-! ### Names in the course of a run -/

namespace Run

variable {r : Run} {out : Surroundings} {w : World}

/-- The output of a name is that of the first result of that name. -/
theorem outputOf_scope (results : List StepResult) (name : String) :
    (r.scope results).outputOf name =
      ((results.find? (·.name == name)).map (·.output)).getD "" := by
  rw [scope, Scope.outputOf, outputsOf, List.find?_map, Option.map_map]
  rfl

/-- A retry is one of the first step with its name, unless it is declared by number. -/
theorem Placed.index_of_retried {k i : Nat} {b : Block} {y : Retrial} (h : r.Placed k b)
    (hy : y ∈ b.retrials)
    (hi : r.workflow.stepNames.findIdx? (· == y.result.name) = some i) :
    y.result.index = i ∨ ∃ s maxRetries delayMs, r.workflow.steps[k]? = some s ∧
      Policy.read (some (k : Int)) s.onFailure =
        .ok (some (.retry (.index y.result.index) maxRetries delayMs)) := by
  obtain ⟨s, target, maxRetries, delayMs, t, hs, hread, ht, hof⟩ := h.retried y hy
  rw [hof.1]
  cases target with
  | index n =>
    obtain ⟨rfl, -⟩ := RetryTarget.resolve_index_eq_ok_iff.mp ht
    exact .inr ⟨s, maxRetries, delayMs, hs, hread⟩
  | name declared =>
    have hdeclared := RetryTarget.resolve_name_eq_ok_iff.mp ht
    obtain rfl := eq_of_findIdx? hdeclared hof.getElem?_stepNames
    exact .inl (Option.some.inj (hdeclared.symm.trans hi))

/-- **Whose result the first one of a name is**: that of the first step with this name, unless an
earlier step declares a retry by number of a namesake further on. -/
theorem Reaches.first_named (hacc : r.workflow.errors = .ok []) {m : Moment}
    (h : r.Reaches out w m) {name : String} {i : Nat} {x : StepResult}
    (hi : r.workflow.stepNames.findIdx? (· == name) = some i)
    (hx : (historyOf m.deeds).find? (·.name == name) = some x) :
    x.index = i ∨ ∃ j < i, ∃ s maxRetries delayMs, r.workflow.steps[j]? = some s ∧
      Policy.read (some (j : Int)) s.onFailure =
        .ok (some (.retry (.index x.index) maxRetries delayMs)) := by
  obtain rfl : x.name = name := by simpa using List.find?_some hx
  obtain ⟨blocks, pauses, hdeeds, hplaced⟩ := (h.charted hacc).exists_blocks
  rw [hdeeds, historyOf_append, historyOf_map_pause, List.append_nil,
    Block.historyOf_flatMap_deeds, List.find?_flatMap, List.findSome?_eq_some_iff] at hx
  obtain ⟨before, b, after, rfl, hb, hbefore⟩ := hx
  have hplace : r.Placed before.length b := hplaced _ _ (by simp)
  have hfirst := hplace.first.getElem?_stepNames
  -- the first step with this name has had no turn before the block of the result
  have hle : before.length ≤ i := by
    by_contra hlt
    obtain ⟨c, hc⟩ : ∃ c, before[i]? = some c := ⟨_, List.getElem?_eq_getElem (by omega)⟩
    have hturn := (hplaced i c (by rw [List.getElem?_append_left (by omega), hc])).first
    have hname := eq_of_findIdx? hi hturn.getElem?_stepNames
    have hnone := hbefore c (List.mem_of_getElem? hc)
    rw [Block.results, List.find?_cons_of_pos (by simp [hname])] at hnone
    cases hnone
  rw [Block.results] at hb
  by_cases hown : b.first.name = x.name
  · -- the result of a turn is that of the step itself
    rw [List.find?_cons_of_pos (by simp [hown])] at hb
    obtain rfl := Option.some.inj hb
    exact .inl (hplace.first.1.trans (Nat.le_antisymm hle (le_of_findIdx? hi hfirst)))
  · rw [List.find?_cons_of_neg (by simp [hown])] at hb
    obtain ⟨y, hy, rfl⟩ := List.mem_map.mp (List.mem_of_find?_eq_some hb)
    have hlt : before.length < i := by
      refine Nat.lt_of_le_of_ne hle fun heq => hown ?_
      exact eq_of_findIdx? hi (heq ▸ hfirst)
    exact (hplace.index_of_retried hy hi).imp_right fun h => ⟨_, hlt, h⟩

end Run

/-! ### Policies and templates compared -/

namespace Workflow

open Policy (Denotes Quotable quotedRetry)
open Template (finish inputMark previousMark quotedReference resolve)

/-- What a policy and a template make of the quoted name of a step, when the first step of this name
is at a position. -/
structure Quoted (wf : Workflow) (s : String) (i : Nat) : Prop where
  first : wf.stepNames.findIdx? (· == s) = some i
  /-- A policy takes what is quoted for any target. -/
  read : ∀ own answer, Policy.read own (.str (quotedRetry s)) = .ok answer ↔
    ∃ target, Denotes s.toList target ∧ answer = some (.retry target 1 0)
  /-- So the target is the step if the name is no numeral, or just the numeral of the position. -/
  target : ∀ own,
    (∃ target, Policy.read own (.str (quotedRetry s)) = .ok (some (.retry target 1 0)) ∧
      target.resolve wf.stepNames = .ok i) ↔
    (∃ c ∈ s.toList, isDigitLike c = false) ∨
      ((∀ c ∈ s.toList, isDecimal c = true) ∧ s.toList.length ≤ digitLimit ∧
        numberOf s.toList = i)
  /-- A template takes it for a name, as long as it does not look like a reference of an earlier
  pass: the output of the first result of this name is inserted. -/
  reference : ¬inputMark <:+: s.toList → ¬previousMark <:+: s.toList →
    ∀ (r : Run) results, resolve (r.scope results) (quotedReference s) =
      (finish (r.scope results) 4
        (((results.find? (·.name == s)).map (·.output)).getD "").toList).map String.ofList
  /-- In a run this is a result of the step, unless an earlier step declares a retry by number of a
  namesake further on. -/
  result : ∀ (r : Run) out w m x, r.workflow = wf → wf.check = .ok () → r.Reaches out w m →
    (historyOf m.deeds).find? (·.name == s) = some x →
    x.index = i ∨ ∃ j < i, ∃ step maxRetries delayMs, wf.steps[j]? = some step ∧
      Policy.read (some (j : Int)) step.onFailure =
        .ok (some (.retry (.index x.index) maxRetries delayMs))

/-- **A quoted name as a target and as a reference.** As a target it is the first step of that name
unless it is a numeral, or made of signs that only look like one; as a reference it is always a
name. -/
theorem quoted {wf : Workflow} {s : String} (hs : s ∈ wf.stepNames) (h : Quotable s) :
    ∃ i, wf.Quoted s i := by
  obtain ⟨i, hi⟩ : ∃ i, wf.stepNames.findIdx? (· == s) = some i :=
    Option.isSome_iff_exists.mp (List.findIdx?_isSome.trans (List.any_eq_true.mpr ⟨s, hs, by simp⟩))
  exact ⟨i, {
    first := hi
    read := fun own answer => Policy.read_quotedRetry_eq_ok_iff h
    target := fun own => Policy.exists_target_iff h hi
    reference := fun hinput hprevious r results => by
      rw [Template.resolve_quotedReference h hinput hprevious, Run.outputOf_scope]
    result := fun r out w m x hr hcheck hreach hx => by
      subst hr
      exact hreach.first_named (Workflow.check_eq_ok_iff.mp hcheck) hi hx }⟩

/-- A workflow with a step whose name is a numeral. -/
def numbered : Workflow where
  name := "release"
  steps := [
    { name := "build", type := .str "command", command := some "make" },
    { name := "0", type := .str "human_approval" } ]

theorem quoted_numbered :
    "0" ∈ numbered.stepNames ∧ Quotable "0" ∧ numbered.Quoted "0" 1 := by
  have hs : "0" ∈ numbered.stepNames := by decide
  have h : Quotable "0" := ⟨by decide, by simp [Policy.isNameChar_iff], by decide⟩
  have hfirst : numbered.stepNames.findIdx? (· == "0") = some 1 := by decide
  obtain ⟨i, hi⟩ := quoted hs h
  obtain rfl := Option.some.inj (hfirst.symm.trans hi.first)
  exact ⟨hs, h, hi⟩

/-- **A step that cannot be named.** The policy takes the quoted name of the second step for the
number of the first; the template finds the output of the second. -/
theorem not_named_numeral :
    Policy.read none (.str (quotedRetry "0")) = .ok (some (.retry (.index 0) 1 0)) ∧
      numbered.stepNames.findIdx? (· == "0") = some 1 ∧
      resolve ⟨"", [("build", "one"), ("0", "two")], []⟩ (quotedReference "0") = .ok "two" ∧
      ¬∀ (wf : Workflow) (s : String), s ∈ wf.stepNames → Quotable s → ∃ target,
        Policy.read none (.str (quotedRetry s)) = .ok (some (.retry target 1 0)) ∧
          ∀ i, wf.stepNames.findIdx? (· == s) = some i → target.resolve wf.stepNames = .ok i := by
  have hread : Policy.read none (.str (quotedRetry "0")) = .ok (some (.retry (.index 0) 1 0)) := by
    decide
  have hfirst : numbered.stepNames.findIdx? (· == "0") = some 1 := by decide
  refine ⟨hread, hfirst, by decide, fun hall => ?_⟩
  obtain ⟨target, htarget, hresolve⟩ :=
    hall numbered "0" (by decide) ⟨by decide, by simp [Policy.isNameChar_iff], by decide⟩
  cases hread.symm.trans htarget
  exact absurd (hresolve 1 hfirst) (by decide)

end Workflow

end StepFlow

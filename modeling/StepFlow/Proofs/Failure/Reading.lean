import StepFlow.Proofs.Activity
import StepFlow.Proofs.Number.Numeral
import StepFlow.Proofs.Value.Text
import StepFlow.Run.Execution

/-!
# Reading failure policies

A declared failure policy may be any value. Reading it comes to one of three ends: nothing is
declared, there is an action, or the declaration is refused. A refusal is a value error, also where
its message has to show an integer that is too long to be shown; so a run that reads a malformed
declaration goes on to stop, and does not fail. Only what is nested beyond all limits cannot be shown.

A retry that has been read is in a normal form. It is made at least once and after no negative
delay, and its target is either a position or a name. No name can be taken for a position: a text
that is made of signs for digits is a position, or it is refused.

## Main definitions

* `RetryTarget.Normal` — the normal form of retry targets
* `Policy.Denotes`, `Policy.ValueDenotes` — the target that a text or a value denotes
* `Policy.Structured` — the action that a mapping stands for
* `Policy.Refuses` — why a declaration is refused
* `Policy.Settled` — all that can come of reading a declaration

## Main results

* `Policy.targetOfText_eq_ok_iff` — texts that denote a target
* `Policy.readMapping_eq_ok_iff` — mappings that stand for an action
* `Policy.read_fails` — why a declaration is refused
* `Policy.read_settled` — what comes of reading any value
-/

namespace StepFlow

open Text (isBlank isDecimal isDigitLike trim)

/-- A target in normal form: a position, or a name that is trimmed, not empty and not made of signs
for digits alone. -/
def RetryTarget.Normal : RetryTarget → Prop
  | .index _ => True
  | .name s => s ≠ "" ∧ Text.strip s = s ∧ ∃ c ∈ s.toList, isDigitLike c = false

namespace Policy

/-! ### Targets -/

/-- The target that a text without blanks around it denotes: a position, if it is made of decimal
digits that are not too many, and else a name. A text of signs for digits that are not all decimal
denotes nothing. -/
inductive Denotes : List Char → RetryTarget → Prop
  | index {ds : List Char} : ds ≠ [] → (∀ c ∈ ds, isDecimal c = true) → ds.length ≤ digitLimit →
      Denotes ds (.index (numberOf ds))
  | name {cs : List Char} : (∃ c ∈ cs, isDigitLike c = false) →
      Denotes cs (.name (String.ofList cs))

theorem isDigitLike_of_isDecimal {c : Char} (h : isDecimal c = true) : isDigitLike c = true := by
  rw [isDigitLike, h, Bool.true_or]

variable {s : String} {v : Value} {target : RetryTarget} {own : Option Int}
  {fields : List (Value × Value)} {action : FailureAction}

theorem denotes_of_targetOfText (h : targetOfText s = .ok target) :
    Denotes (trim s.toList) target := by
  have htrim := Text.trim_trim s.toList
  simp only [targetOfText] at h
  generalize trim s.toList = cs at h htrim
  split at h
  · cases h
  rename_i hempty
  have hne : cs ≠ [] := by simpa using hempty
  split at h
  · rename_i hall
    have hdigits : ∀ c ∈ cs, isDigitLike c = true := by simpa using hall
    cases hread : readInteger cs with
    | error e =>
      rw [hread] at h
      cases h
    | ok n =>
      rw [hread] at h
      cases h
      obtain ⟨hdecimal, hlength, rfl⟩ := (readInteger_ok_iff hne hdigits htrim).mp hread
      exact .index hne hdecimal hlength
  · rename_i hname
    cases h
    exact .name (by simpa using hname)

theorem targetOfText_of_denotes (h : Denotes (trim s.toList) target) :
    targetOfText s = .ok target := by
  simp only [targetOfText]
  generalize trim s.toList = cs at h
  cases h with
  | index hne hdecimal hlength =>
    have hdigits : cs.all isDigitLike = true :=
      List.all_eq_true.mpr fun c hc => isDigitLike_of_isDecimal (hdecimal c hc)
    rw [if_neg (by simpa using hne), if_pos hdigits, readInteger_digits hne hdecimal hlength]
    rfl
  | name hname =>
    obtain ⟨c, hc, hno⟩ := hname
    have hne : cs ≠ [] := List.ne_nil_of_mem hc
    rw [if_neg (by simpa using hne), if_neg fun hall => ?_]
    · rfl
    · rw [List.all_eq_true.mp hall c hc] at hno
      cases hno

/-- **The target of a text** is what its trimmed form denotes. -/
theorem targetOfText_eq_ok_iff : targetOfText s = .ok target ↔ Denotes (trim s.toList) target :=
  ⟨denotes_of_targetOfText, targetOfText_of_denotes⟩

/-- What a trimmed text denotes is in normal form. -/
theorem Denotes.normal {cs : List Char} (h : Denotes (trim cs) target) : target.Normal := by
  generalize htrim : trim cs = ds at h
  cases h with
  | index => trivial
  | name hname =>
    have hstrip : Text.strip (String.ofList ds) = String.ofList ds := by
      rw [Text.strip, String.toList_ofList, ← htrim, Text.trim_trim]
    refine ⟨?_, hstrip, by simpa using hname⟩
    rintro hempty
    obtain ⟨c, hc, -⟩ := hname
    rw [← String.toList_inj, String.toList_ofList] at hempty
    rw [hempty] at hc
    cases hc

/-- The target that a value denotes: an integer is a position; a string is read as a text. -/
inductive ValueDenotes : Value → RetryTarget → Prop
  | int (n : Int) : ValueDenotes (.int n) (.index n)
  | str {s : String} {target : RetryTarget} : Denotes (trim s.toList) target →
      ValueDenotes (.str s) target

theorem targetOf_eq_ok_iff : targetOf v = .ok target ↔ ValueDenotes v target := by
  constructor
  · intro h
    unfold targetOf at h
    split at h
    · cases h
      exact .int _
    · exact .str (targetOfText_eq_ok_iff.mp h)
    · obtain ⟨_, _, h⟩ := exists_of_bind_ok h
      cases h
  · rintro (⟨n⟩ | ⟨h⟩)
    · rfl
    · exact targetOfText_eq_ok_iff.mpr h

theorem ValueDenotes.normal (h : ValueDenotes v target) : target.Normal := by
  cases h with
  | int n => trivial
  | str h => exact h.normal

/-! ### Mappings -/

/-- The count under a name in a mapping, or its default where there is none. -/
def Counts (fields : List (Value × Value)) (name : String) (default least n : Int) : Prop :=
  (Value.lookup? name fields).getD (.int default) = .int n ∧ least ≤ n

/-- The target that a mapping gives. Without one it is the declaring step. -/
def Targets (own : Option Int) (fields : List (Value × Value)) (target : RetryTarget) : Prop :=
  match Value.lookup? "retry_step" fields with
  | some v => ValueDenotes v target
  | none => ∃ i, own = some i ∧ target = .index i

/-- The action that a mapping stands for. -/
inductive Structured (own : Option Int) (fields : List (Value × Value)) : FailureAction → Prop
  | proceed : Value.lookup "action" fields = .str "continue" → Structured own fields .proceed
  | stop : Value.lookup "action" fields = .str "stop" → Structured own fields .stop
  | retry {target : RetryTarget} {maxRetries delayMs : Int} :
      Value.lookup "action" fields = .str "retry" → Targets own fields target →
      Counts fields "max_retries" 1 1 maxRetries → Counts fields "delay_ms" 0 0 delayMs →
      Structured own fields (.retry target maxRetries delayMs)

theorem count_eq_ok_iff {field : String} {least n : Int} :
    count field least v = .ok n ↔ v = .int n ∧ least ≤ n := by
  unfold count
  split
  · rename_i m
    split
    · rename_i hlt
      constructor
      · intro h
        obtain ⟨_, _, h⟩ := exists_of_bind_ok h
        cases h
      · rintro ⟨h, hle⟩
        cases h
        omega
    · rename_i hge
      constructor
      · rintro ⟨⟩
        exact ⟨rfl, by omega⟩
      · rintro ⟨h, -⟩
        cases h
        rfl
  · rename_i hno
    constructor
    · rintro ⟨⟩
    · rintro ⟨rfl, -⟩
      exact absurd rfl (hno n)

/-- The first part of reading a retry: its target. -/
def readTarget (own : Option Int) (fields : List (Value × Value)) : Policied RetryTarget :=
  match Value.lookup? "retry_step" fields, own with
  | some v, _ => targetOf v
  | none, some i => pure (.index i)
  | none, none => throw .targetMissing

/-- The rest of it: the counts. -/
def readCounts (fields : List (Value × Value)) (target : RetryTarget) : Policied FailureAction := do
  let retries ← count "max_retries" 1 ((Value.lookup? "max_retries" fields).getD (.int 1))
  let delay ← count "delay_ms" 0 ((Value.lookup? "delay_ms" fields).getD (.int 0))
  return .retry target retries delay

theorem readMapping_of_retry (h : Value.lookup "action" fields = .str "retry") :
    readMapping own fields = readTarget own fields >>= readCounts fields := by
  unfold readMapping readTarget
  rw [h]
  cases Value.lookup? "retry_step" fields with
  | some v => rfl
  | none => cases own <;> rfl

theorem readTarget_eq_ok_iff : readTarget own fields = .ok target ↔ Targets own fields target := by
  unfold Targets readTarget
  cases Value.lookup? "retry_step" fields with
  | some v => exact targetOf_eq_ok_iff
  | none =>
    cases own with
    | some i =>
      constructor
      · rintro ⟨⟩
        exact ⟨i, rfl, rfl⟩
      · rintro ⟨_, ⟨⟩, rfl⟩
        rfl
    | none =>
      constructor
      · rintro ⟨⟩
      · rintro ⟨_, ⟨⟩, -⟩

theorem readCounts_eq_ok_iff : readCounts fields target = .ok action ↔
    ∃ maxRetries delayMs, Counts fields "max_retries" 1 1 maxRetries ∧
      Counts fields "delay_ms" 0 0 delayMs ∧ action = .retry target maxRetries delayMs := by
  unfold readCounts
  constructor
  · intro h
    obtain ⟨maxRetries, hretries, h⟩ := exists_of_bind_ok h
    obtain ⟨delayMs, hdelay, h⟩ := exists_of_bind_ok h
    cases h
    exact ⟨_, _, count_eq_ok_iff.mp hretries, count_eq_ok_iff.mp hdelay, rfl⟩
  · rintro ⟨maxRetries, delayMs, hretries, hdelay, rfl⟩
    rw [count_eq_ok_iff.mpr hretries, count_eq_ok_iff.mpr hdelay]
    rfl

/-- **Mappings that stand for an action.** -/
theorem readMapping_eq_ok_iff :
    readMapping own fields = .ok action ↔ Structured own fields action := by
  constructor
  · intro h
    by_cases haction : Value.lookup "action" fields = .str "retry"
    · rw [readMapping_of_retry haction] at h
      obtain ⟨target, htarget, h⟩ := exists_of_bind_ok h
      obtain ⟨maxRetries, delayMs, hretries, hdelay, rfl⟩ := readCounts_eq_ok_iff.mp h
      exact .retry haction (readTarget_eq_ok_iff.mp htarget) hretries hdelay
    · unfold readMapping at h
      split at h
      · cases h
        exact .proceed ‹_›
      · cases h
        exact .stop ‹_›
      · exact absurd ‹_› haction
      · obtain ⟨_, _, h⟩ := exists_of_bind_ok h
        cases h
  · rintro (haction | haction | ⟨haction, htarget, hretries, hdelay⟩)
    · rw [readMapping, haction]
      rfl
    · rw [readMapping, haction]
      rfl
    · rw [readMapping_of_retry haction, readTarget_eq_ok_iff.mpr htarget]
      exact readCounts_eq_ok_iff.mpr ⟨_, _, hretries, hdelay, rfl⟩

/-! ### Refusals -/

/-- **Why a declaration is refused**: there is a value error, or the collections in it lie too deep
for a part of it to be shown. -/
def Refuses (v : Value) (e : PolicyFault) : Prop :=
  e.label = "ValueError" ∨ e = .tooDeep ∧ nestingLimit < v.nesting

/-- That an integer is too long to be shown is a value error. -/
theorem shown_fails {r : Except Fault String} {u : Value} (h : FailsOnly (u.Hinders 0) r)
    (hnesting : u.nesting ≤ v.nesting) : FailsOnly (Refuses v) (shown r) := by
  refine h.mapError fun e he => ?_
  rcases he with ⟨rfl, -⟩ | ⟨rfl, hdeep⟩
  · exact .inl rfl
  · exact .inr ⟨rfl, by omega⟩

theorem readInteger_fails (cs : List Char) :
    FailsOnly (·.label = "ValueError") (readInteger cs) := by
  intro e h
  simp only [readInteger, readIntegerIn] at h
  split at h
  · cases h
    rfl
  · split at h
    · cases h
      rfl
    · cases h

theorem targetOfText_fails (s : String) : FailsOnly (·.label = "ValueError") (targetOfText s) := by
  unfold targetOfText
  dsimp only
  split
  · exact .error rfl
  split
  · refine .bind (.mapError (readInteger_fails _) fun e he => he) fun _ => .ok _
  · exact .ok _

theorem targetOf_fails {u : Value} (hnesting : u.nesting ≤ v.nesting) :
    FailsOnly (Refuses v) (targetOf u) := by
  unfold targetOf
  split
  · exact .ok _
  · exact (targetOfText_fails _).mono fun _ => .inl
  · exact .bind (shown_fails (Value.literalIn_fails _ _ _) hnesting) fun _ => .error (.inl rfl)

theorem count_fails (field : String) (least : Int) (v : Value) :
    FailsOnly (·.label = "ValueError") (count field least v) := by
  unfold count
  split
  · split
    · refine .bind ((integerText_fails _).mapError fun e he => ?_) fun _ => .error rfl
      rw [he]
      rfl
    · exact .ok _
  · exact .error rfl

theorem readMapping_fails (own : Option Int) (fields : List (Value × Value)) :
    FailsOnly (Refuses (.map fields)) (readMapping own fields) := by
  have hnesting : (Value.map fields).nesting = Value.nestingOfEntries fields + 1 := by
    rw [Value.nesting]
  have hcount (field : String) (least : Int) (v : Value) :
      FailsOnly (Refuses (.map fields)) (count field least v) :=
    (count_fails field least v).mono fun _ => .inl
  by_cases haction : Value.lookup "action" fields = .str "retry"
  · rw [readMapping_of_retry haction]
    refine .bind ?_ fun _ => .bind (hcount _ _ _) fun _ => .bind (hcount _ _ _) fun _ => .ok _
    unfold readTarget
    split
    · rename_i hfound
      have hle := Value.nesting_of_lookup? hfound
      exact targetOf_fails (by omega)
    · exact .ok _
    · exact .error (.inl rfl)
  unfold readMapping
  split
  · exact .ok _
  · exact .ok _
  · exact absurd ‹_› haction
  · have hle := Value.nesting_lookup_le "action" fields
    exact .bind (shown_fails (Value.text_fails _) (by omega)) fun _ => .error (.inl rfl)

theorem readCompact_fails (raw : String) :
    FailsOnly (·.label = "ValueError") (readCompact raw) := by
  unfold readCompact
  dsimp only
  split
  · exact .ok _
  split
  · exact .ok _
  split
  · exact .bind (targetOfText_fails _) fun _ => .ok _
  · exact .error rfl

/-- **A declaration is refused with a value error**, unless it is nested too deep. -/
theorem read_fails (own : Option Int) (v : Value) :
    FailsOnly (Refuses v.opened) (read own v) := by
  unfold read
  split
  · exact .ok _
  · exact .ok _
  · exact .bind ((readCompact_fails _).mono fun _ => .inl) fun _ => .ok _
  · rename_i hmap
    rw [hmap]
    exact .bind (readMapping_fails _ _) fun _ => .ok _
  · exact .error (.inl rfl)

end Policy

/-! ### What a run makes of a declaration -/

namespace Run

variable {s : Step} {index : Option Int}

/-- A policy that can be read is evaluated as it is read, without a word in the log. -/
theorem perform_actionAfter {action : Option FailureAction}
    (h : Policy.read index s.onFailure = .ok action) (out : Surroundings) (w : World) :
    (actionAfter s index).perform out w = (.ok action, w) := by
  unfold actionAfter
  rw [h]
  rfl

/-- A policy that is refused stops the run, with a line in the log that shows the refusal. -/
theorem perform_actionAfter_of_error {e : PolicyFault}
    (h : Policy.read index s.onFailure = .error e) (hdeep : e ≠ .tooDeep) (out : Surroundings)
    (w : World) :
    ∃ w', (actionAfter s index).perform out w = (.ok (some .stop), w') ∧ w.Logged w' := by
  unfold actionAfter
  rw [h]
  cases e with
  | tooDeep => exact absurd rfl hdeep
  | _ => exact ⟨_, rfl, _, rfl⟩

end Run

namespace Policy

variable {own : Option Int} {raw : String} {action : FailureAction}

/-- **The compact notation**: a word, or the body of a retry, which is made once and at once. -/
theorem readCompact_eq_ok_iff : readCompact raw = .ok action ↔
    (trim raw.toList = "continue".toList ∧ action = .proceed) ∨
    (trim raw.toList = "stop".toList ∧ action = .stop) ∨
    ∃ body target, compact? (trim raw.toList) = some body ∧ Denotes (trim body) target ∧
      action = .retry target 1 0 := by
  have hwords : compact? "continue".toList = none ∧ compact? "stop".toList = none := by decide
  have hdiffer : "continue".toList ≠ "stop".toList := by decide
  unfold readCompact
  dsimp only
  constructor
  · intro h
    split at h
    · cases h
      exact .inl ⟨‹_›, rfl⟩
    split at h
    · cases h
      exact .inr (.inl ⟨‹_›, rfl⟩)
    split at h
    · rename_i body hbody
      obtain ⟨target, htarget, h⟩ := exists_of_bind_ok h
      cases h
      have hdenotes := targetOfText_eq_ok_iff.mp htarget
      rw [String.toList_ofList] at hdenotes
      exact .inr (.inr ⟨body, target, hbody, hdenotes, rfl⟩)
    · cases h
  · rintro (⟨htext, rfl⟩ | ⟨htext, rfl⟩ | ⟨body, target, hbody, hdenotes, rfl⟩)
    · rw [if_pos htext]
      rfl
    · rw [htext, if_neg hdiffer.symm, if_pos rfl]
      rfl
    · have hcontinue : trim raw.toList ≠ "continue".toList := fun h => by
        rw [h, hwords.1] at hbody
        cases hbody
      have hstop : trim raw.toList ≠ "stop".toList := fun h => by
        rw [h, hwords.2] at hbody
        cases hbody
      have htarget : targetOfText (String.ofList body) = .ok target := by
        rw [targetOfText_eq_ok_iff, String.toList_ofList]
        exact hdenotes
      rw [if_neg hcontinue, if_neg hstop, hbody]
      dsimp only
      rw [htarget]
      rfl

/-- What either notation says of a retry is in normal form. -/
theorem normal_of_readCompact {target : RetryTarget} {maxRetries delayMs : Int}
    (h : readCompact raw = .ok (.retry target maxRetries delayMs)) :
    1 ≤ maxRetries ∧ 0 ≤ delayMs ∧ target.Normal := by
  obtain ⟨-, h⟩ | ⟨-, h⟩ | ⟨body, target, -, hdenotes, h⟩ := readCompact_eq_ok_iff.mp h
  · cases h
  · cases h
  · cases h
    exact ⟨Int.le_refl 1, Int.le_refl 0, hdenotes.normal⟩

theorem Structured.normal {fields : List (Value × Value)} {target : RetryTarget}
    {maxRetries delayMs : Int} (h : Structured own fields (.retry target maxRetries delayMs)) :
    1 ≤ maxRetries ∧ 0 ≤ delayMs ∧ target.Normal := by
  cases h with
  | retry haction htarget hretries hdelay =>
    refine ⟨hretries.2, hdelay.2, ?_⟩
    unfold Targets at htarget
    split at htarget
    · exact htarget.normal
    · obtain ⟨i, -, rfl⟩ := htarget
      trivial

/-- An action that is read is an answer. -/
theorem map_some_eq_ok_iff {α ε : Type} {r : Except ε α} {answer : Option α} :
    some <$> r = .ok answer ↔ ∃ a, answer = some a ∧ r = .ok a := by
  cases r with
  | error e => exact ⟨nofun, fun ⟨_, _, h⟩ => nomatch h⟩
  | ok a =>
    constructor
    · rintro ⟨⟩
      exact ⟨a, rfl, rfl⟩
    · rintro ⟨_, rfl, ⟨⟩⟩
      rfl

/-- All that can come of reading a declaration, which may be any value. `own` is the position of the
step that declares it, where that is known. -/
structure Settled (own : Option Int) (v : Value) : Prop where
  /-- Nothing is declared by null, and by nothing else. -/
  undeclared : read own v = .ok none ↔ v.opened = .null
  /-- A refusal is a value error, unless collections in the declaration lie too deep to be shown. -/
  refused : ∀ e, read own v = .error e →
    e.label = "ValueError" ∨ e = .tooDeep ∧ nestingLimit < v.opened.nesting
  /-- A mapping is read as the action that it stands for, if it stands for one. -/
  structured : ∀ fields, v.opened = .map fields → ∀ answer,
    read own v = .ok answer ↔ ∃ action, answer = some action ∧ Structured own fields action
  /-- A retry that a text or a mapping declares is in normal form. -/
  normal : ∀ target maxRetries delayMs,
    ((∃ s, v.opened = .str s) ∨ ∃ fields, v.opened = .map fields) →
    read own v = .ok (some (.retry target maxRetries delayMs)) →
    1 ≤ maxRetries ∧ 0 ≤ delayMs ∧ target.Normal
  /-- A run that evaluates the declaration of a failed step goes on with what is read, or it stops
  after a line in the log. There are no other outcomes of what is not nested too deep. -/
  evaluated : ∀ s : Step, s.onFailure = v → read own v ≠ .error .tooDeep → ∀ out w, ∃ action w',
    (Run.actionAfter s own).perform out w = (.ok action, w') ∧
      (read own v = .ok action ∧ w' = w ∨
        (∃ e, read own v = .error e) ∧ action = some .stop ∧ w.Logged w')

end Policy

end StepFlow

import StepFlow.Proofs.Value.Text
import StepFlow.Workflow.Document

/-!
# The schema of workflow documents

A document gives workflows just if it has the form that is laid down here, and then it gives what it
says.

The form is told by predicates on values, one for each kind of mapping in a document. They speak of
what stands in the document only, not of how it is read: some of what they ask for is looked at
where a field is read, and some only when the whole workflow is checked. What a document says is
told by functions on values. They are total, and where something is missing or does not fit their
value has no meaning.

A collection may lie in itself. One step around the loop is enough at every place where a mapping or
a list is expected, hence the predicates look at the opened value.

## Main definitions

* `Schema.Conforms` — the form of a document
* `Schema.contents` — the workflows that a document says
* `Schema.AgentFields`, `ContextFields`, `StepFields`, `WorkflowFields` — the mappings in it
* `Schema.agentOf`, `contextOf`, `stepOf`, `workflowOf` — what they say

## Main results

* `Schema.isFraction_iff`, `Schema.strings?_eq_some_iff` — the tests of the reader mean this
* `Schema.map_and_iff`, `Schema.optionalMap_and_iff` — going down into a mapping
-/

namespace StepFlow

open Value (lookup)

/-! ### The form of a document -/

/-- A number is at most another one. -/
def Value.Le (x y : Value) : Prop := x.compareNumbers? y = some .lt ∨ x.compareNumbers? y = some .eq

namespace Schema

/-- All keys of a mapping are among the known ones. -/
def Keys (known : List String) (fields : List (Value × Value)) : Prop :=
  ∀ f ∈ fields, ∃ name ∈ known, f.1 = .str name

/-- A text or nothing. -/
def OptionalText (v : Value) : Prop := v = .null ∨ ∃ s, v = .str s

/-- A number; Booleans are none. -/
def Number (v : Value) : Prop := (∃ n, v = .int n) ∨ ∃ x, v = .double x

/-- A mapping with certain fields. -/
def Map (P : List (Value × Value) → Prop) (v : Value) : Prop :=
  ∃ fields, v.opened = .map fields ∧ P fields

/-- A mapping with certain fields, or nothing. -/
def OptionalMap (P : List (Value × Value) → Prop) (v : Value) : Prop := v.opened = .null ∨ Map P v

/-- A list of texts; whatever counts as empty stands for the empty list. -/
def Texts (v : Value) : Prop :=
  v.opened.isTruthy = false ∨ ∃ names : List String, v.opened = .list (names.map .str)

/-- The temperature of an agent: a number from zero to one, or nothing. -/
def Temperature (v : Value) : Prop :=
  v = .null ∨ Number v ∧ (Value.int 0).Le v ∧ v.Le (.int 1)

/-- A time limit: a number that is not at most zero, or nothing. -/
def TimeLimit (v : Value) : Prop := v = .null ∨ Number v ∧ ¬v.Le (.int 0)

/-- The choice of an agent. Its model is of any kind, as long as a text can be made of it. -/
structure AgentFields (fields : List (Value × Value)) : Prop where
  keys : Keys ["type", "model", "temperature"] fields
  type : ∃ type : AgentType, lookup "type" fields = .str type.name
  model : (lookup "model" fields).HasText
  temperature : Temperature (lookup "temperature" fields)

/-- All keys of a mapping have texts, which stand for them. -/
def TextKeys (fields : List (Value × Value)) : Prop := ∀ f ∈ fields, f.1.HasText

/-- Material that is put before an agent. -/
structure ContextFields (fields : List (Value × Value)) : Prop where
  keys : Keys ["files", "commands", "variables"] fields
  files : Texts (lookup "files" fields)
  commands : Texts (lookup "commands" fields)
  vars : (lookup "variables" fields).opened.isTruthy = false ∨
    Map TextKeys (lookup "variables" fields)

/-- The fields that a step of a type may not declare. -/
def excluded : StepType → List String
  | .agent => ["command"]
  | .command => ["agent", "prompt"]
  | .approval => ["agent", "command", "prompt"]

/-- A failure policy of the step at a position, among steps of the given names. -/
def FailurePolicy (names : List String) (index : Nat) (v : Value) : Prop :=
  ∃ action, Policy.read (some (index : Int)) v = .ok action ∧
    ∀ target maxRetries delayMs, action = some (.retry target maxRetries delayMs) →
      ∃ i, target.resolve names = .ok i

/-- The step at a position, among steps of the given names. A step that its policy tries again must
be one of these. -/
structure StepFields (names : List String) (index : Nat) (fields : List (Value × Value)) :
    Prop where
  keys : Keys ["name", "type", "agent", "command", "context", "prompt", "on_success", "on_failure",
    "timeout_sec"] fields
  name : ∃ name, lookup "name" fields = .str name ∧ name ≠ ""
  type : ∃ type : StepType, lookup "type" fields = .str type.name ∧
    ∀ field ∈ excluded type, (lookup field fields).opened = .null
  texts : ∀ field ∈ ["command", "prompt", "on_success"], OptionalText (lookup field fields)
  timeout : TimeLimit (lookup "timeout_sec" fields)
  agent : OptionalMap AgentFields (lookup "agent" fields)
  context : OptionalMap ContextFields (lookup "context" fields)
  policy : FailurePolicy names index (lookup "on_failure" fields)

/-! ### What a document says -/

/-- The fields of a mapping. -/
def fieldsOf (v : Value) : List (Value × Value) :=
  match v.opened with
  | .map fields => fields
  | _ => []

/-- The items of a list. -/
def itemsOf (v : Value) : List Value :=
  match v.opened with
  | .list items => items
  | _ => []

/-- The text of a value. -/
def textIn (v : Value) : String := v.text.toOption.getD ""

/-- A text, if there is one. -/
def text? : Value → Option String
  | .str s => some s
  | _ => none

/-- The value of a field that may be missing. -/
def given? {α : Type} (f : Value → α) : Value → Option α
  | .null => none
  | v => some (f v)

/-- A mapping that may be missing. -/
def map? {α : Type} (f : List (Value × Value) → α) (v : Value) : Option α :=
  match v.opened with
  | .map fields => some (f fields)
  | _ => none

/-- A number as a double. -/
def numberOf : Value → Value
  | .int n => .double (Double.ofInt n)
  | v => v

def agentOf (fields : List (Value × Value)) : AgentChoice where
  type := textIn (lookup "type" fields)
  model := given? textIn (lookup "model" fields)
  temperature := numberOf (lookup "temperature" fields)

def contextOf (fields : List (Value × Value)) : ContextSpec where
  files := (itemsOf (lookup "files" fields)).filterMap text?
  commands := (itemsOf (lookup "commands" fields)).filterMap text?
  vars := Value.entriesOf
    ((fieldsOf (lookup "variables" fields)).map fun e => (.str (textIn e.1), e.2))

def stepOf (fields : List (Value × Value)) : Step where
  name := (text? (lookup "name" fields)).getD ""
  type := lookup "type" fields
  agent := map? agentOf (lookup "agent" fields)
  command := text? (lookup "command" fields)
  context := map? contextOf (lookup "context" fields)
  prompt := text? (lookup "prompt" fields)
  onSuccess := text? (lookup "on_success" fields)
  onFailure := lookup "on_failure" fields
  timeout := lookup "timeout_sec" fields

def stepsOf (fields : List (Value × Value)) : List Step :=
  (itemsOf (lookup "steps" fields)).map fun v => stepOf (fieldsOf v)

def workflowOf (name : String) (fields : List (Value × Value)) : Workflow where
  name := name
  steps := stepsOf fields
  description := text? (lookup "description" fields)

/-- A workflow has a step at least. The names of all steps matter to each of them, since any may be
tried again after it. -/
structure WorkflowFields (fields : List (Value × Value)) : Prop where
  keys : Keys ["description", "steps"] fields
  description : OptionalText (lookup "description" fields)
  steps : ∃ items, (lookup "steps" fields).opened = .list items ∧ items ≠ [] ∧
    ∀ i v, items[i]? = some v → Map (StepFields ((stepsOf fields).map (·.name)) i) v

/-- A document has workflows, each under a key of any kind that has a text. -/
def Conforms : Value → Prop :=
  Map fun fields => ∃ entries, (lookup "workflows" fields).opened = .map entries ∧ entries ≠ [] ∧
    ∀ e ∈ entries, e.1.HasText ∧ Map WorkflowFields e.2

/-- An entry says a workflow by the text of its key. -/
def entryOf (e : Value × Value) : String × Workflow :=
  (textIn e.1, workflowOf (textIn e.1) (fieldsOf e.2))

/-- The workflows that a document says, by name and in order. -/
def contents (doc : Value) : Fields Workflow :=
  .ofList ((fieldsOf (lookup "workflows" (fieldsOf doc))).map entryOf)

end Schema

/-! ### Numbers -/

/-- No number is both zero and one. -/
theorem Double.not_zero_and_one (x : Double) (h₀ : x.compareInt? 0 = some .eq)
    (h₁ : x.compareInt? 1 = some .eq) : False := by
  cases x with
  | nan => cases h₀
  | infinite s => cases s <;> cases h₀
  | finite s m e =>
    simp only [compareInt?, fraction?, Option.map_some, Option.some.injEq,
      Int.compare_eq_eq] at h₀ h₁
    by_cases he : 0 ≤ e
    · simp only [he, if_true] at h₀ h₁
      omega
    · have hpos : 0 < twoTo (-e).toNat := Nat.pow_pos (by decide)
      simp only [he, if_false] at h₀ h₁
      omega

theorem Value.not_zero_and_one (v : Value) (h₀ : (int 0).compareNumbers? v = some .eq)
    (h₁ : v.compareNumbers? (int 1) = some .eq) : False := by
  have hint (n : Int) (h₀ : some (compare 0 n) = some .eq) (h₁ : some (compare n 1) = some .eq) :
      False := by
    simp only [Option.some.injEq, Int.compare_eq_eq] at h₀ h₁
    omega
  cases v with
  | bool b => exact hint _ h₀ h₁
  | int n => exact hint _ h₀ h₁
  | double x =>
    refine x.not_zero_and_one ?_ h₁
    have h₀ : (x.compareInt? 0).map Ordering.swap = some .eq := h₀
    cases hx : x.compareInt? 0 with
    | none =>
      rw [hx] at h₀
      cases h₀
    | some o =>
      rw [hx] at h₀
      cases o <;> simp_all
  | _ => cases h₀

namespace Schema

open Document (isOptionalText isNumber isPositive isFraction strings? toDouble)

variable {v : Value} {fields : List (Value × Value)}

theorem isNumber_iff : isNumber v = true ↔ Number v := by
  cases v <;> simp [isNumber, Number]

theorem isPositive_iff : isPositive v = true ↔ ¬v.Le (.int 0) := by
  unfold isPositive Value.Le
  cases v.compareNumbers? (.int 0) with
  | none => simp
  | some o => cases o <;> simp

theorem isFraction_iff : isFraction v = true ↔ (Value.int 0).Le v ∧ v.Le (.int 1) := by
  have hnot := v.not_zero_and_one
  unfold isFraction Value.Le
  generalize (Value.int 0).compareNumbers? v = o₀, v.compareNumbers? (.int 1) = o₁ at hnot ⊢
  rcases o₀ with _ | _ | _ | _ <;> rcases o₁ with _ | _ | _ | _ <;> simp at hnot ⊢

/-- Every temperature has a double. -/
theorem Temperature.toDouble_eq (h : Temperature v) : toDouble v = .ok (numberOf v) := by
  rcases h with rfl | ⟨⟨n, rfl⟩ | ⟨x, rfl⟩, hlow, hhigh⟩
  · rfl
  · have hrange : 0 ≤ n ∧ n ≤ 1 := by
      have hlow : some (compare 0 n) = some .lt ∨ some (compare 0 n) = some .eq := hlow
      have hhigh : some (compare n 1) = some .lt ∨ some (compare n 1) = some .eq := hhigh
      simp only [Option.some.injEq, Int.compare_eq_eq, Int.compare_eq_lt] at hlow hhigh
      omega
    obtain rfl | rfl : n = 0 ∨ n = 1 := by omega
    · rfl
    · rfl
  · rfl

/-! ### Texts and mappings -/

theorem isOptionalText_iff : isOptionalText v = true ↔ OptionalText v := by
  cases v <;> simp [isOptionalText, OptionalText]

theorem OptionalText.optionalText_eq (h : OptionalText v) : Document.optionalText v = text? v := by
  rcases h with rfl | ⟨s, rfl⟩
  · rfl
  · rfl

theorem strings?_eq_some_iff {items : List Value} {names : List String} :
    strings? items = some names ↔ items = names.map .str := by
  induction items generalizing names with
  | nil => cases names <;> simp [strings?]
  | cons v items ih =>
    cases v with
    | str s => cases names <;> simp [strings?, ih, and_assoc, and_comm]
    | _ => cases names <;> simp [strings?]

theorem filterMap_text?_map_str (names : List String) :
    (names.map .str).filterMap text? = names := by
  rw [List.filterMap_map]
  exact List.filterMap_some

section

variable {P : List (Value × Value) → Prop} {α : Type} (f : List (Value × Value) → α)

theorem given?_of_ne {g : Value → α} (h : v ≠ .null) : given? g v = some (g v) := by
  cases v with
  | null => exact absurd rfl h
  | _ => rfl

theorem map_iff (h : v.opened = .map fields) : Map P v ↔ P fields := by
  simp [Map, h]

theorem not_map (h : ∀ fields, v.opened ≠ .map fields) : ¬Map P v :=
  fun ⟨fields, hopened, _⟩ => h fields hopened

theorem optionalMap_iff (h : v.opened = .map fields) : OptionalMap P v ↔ P fields := by
  simp [OptionalMap, Map, h]

theorem not_optionalMap (hnull : v.opened ≠ .null) (hmap : ∀ fields, v.opened ≠ .map fields) :
    ¬OptionalMap P v := by
  rintro (h | h)
  · exact hnull h
  · exact not_map hmap h

theorem map?_eq_some (h : v.opened = .map fields) : map? f v = some (f fields) := by
  simp [map?, h]

theorem fieldsOf_eq (h : v.opened = .map fields) : fieldsOf v = fields := by
  simp [fieldsOf, h]

/-- A predicate on fields that is made of two, where the integers are short. -/
theorem map_and_iff {Q R : List (Value × Value) → Prop} (h : v.Short)
    (hiff : ∀ fields, (Value.map fields).Short → (P fields ↔ Q fields ∧ R fields)) :
    Map P v ↔ Map Q v ∧ R (fieldsOf v) := by
  have hopened := h.opened
  constructor
  · rintro ⟨fields, hfields, hP⟩
    rw [hfields] at hopened
    rw [map_iff hfields, fieldsOf_eq hfields]
    exact (hiff fields hopened).mp hP
  · rintro ⟨⟨fields, hfields, hQ⟩, hR⟩
    rw [hfields] at hopened
    rw [fieldsOf_eq hfields] at hR
    exact ⟨fields, hfields, (hiff fields hopened).mpr ⟨hQ, hR⟩⟩

/-- The same where there may be no mapping, and where the second one speaks of what is said. -/
theorem optionalMap_and_iff {Q : List (Value × Value) → Prop} {R : α → Prop} (h : v.Short)
    (hiff : ∀ fields, (Value.map fields).Short → (P fields ↔ Q fields ∧ R (f fields))) :
    OptionalMap P v ↔ OptionalMap Q v ∧ ∀ a, map? f v = some a → R a := by
  have hopened := h.opened
  constructor
  · rintro (hnull | ⟨fields, hfields, hP⟩)
    · exact ⟨.inl hnull, by simp [map?, hnull]⟩
    · rw [hfields] at hopened
      obtain ⟨hQ, hR⟩ := (hiff fields hopened).mp hP
      refine ⟨.inr ⟨fields, hfields, hQ⟩, fun a ha => ?_⟩
      rw [map?_eq_some f hfields] at ha
      cases ha
      exact hR
  · rintro ⟨hnull | ⟨fields, hfields, hQ⟩, hR⟩
    · exact .inl hnull
    · rw [hfields] at hopened
      have hsaid := hR _ (map?_eq_some f hfields)
      exact .inr ⟨fields, hfields, (hiff fields hopened).mpr ⟨hQ, hsaid⟩⟩

theorem fieldsOf_eq_nil (h : ∀ fields, v.opened ≠ .map fields) : fieldsOf v = [] := by
  unfold fieldsOf
  split
  · exact absurd ‹_› (h _)
  · rfl

theorem itemsOf_eq {items : List Value} (h : v.opened = .list items) : itemsOf v = items := by
  simp [itemsOf, h]

theorem itemsOf_eq_nil (h : ∀ items, v.opened ≠ .list items) : itemsOf v = [] := by
  unfold itemsOf
  split
  · exact absurd ‹_› (h _)
  · rfl

end

end Schema

end StepFlow

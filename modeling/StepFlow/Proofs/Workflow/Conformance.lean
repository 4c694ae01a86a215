import StepFlow.Proofs.Workflow.Accepted
import StepFlow.Proofs.Workflow.Contract
import StepFlow.Proofs.Workflow.Reading

/-!
# Documents that give workflows

A document gives workflows just if it has the form that the schema lays down, and then it gives what
it says. The form is asked for in two places, the reader and the check of the finished workflow.
Here the two are put together: what the check adds is told of the fields that the workflow was made
of.

One thing is not seen from the workflow alone. The type of an agent is turned into a text before it
is checked, so that some other value might pass for the name of an agent. None does, since the names
are words of small letters, and the text of a value that is no string has something else in it.

## Main results

* `Schema.stepFields_iff`, `Schema.workflowFields_iff` — the reader and the check ask for the form
* `Schema.workflows_eq_ok_iff` — a document gives workflows just if it has the form
* `Workflow.load_eq_ok_iff` — and so does a file with this document
-/

namespace StepFlow

open Value (lookup)

/-! ### The names of types -/

theorem StepType.ofName?_eq_some_iff {s : String} {type : StepType} :
    ofName? s = some type ↔ s = type.name := by
  constructor
  · intro h
    have hname := List.find?_some h
    exact (beq_iff_eq.mp hname).symm
  · rintro rfl
    cases type <;> rfl

theorem AgentType.ofName?_eq_some_iff {s : String} {type : AgentType} :
    ofName? s = some type ↔ s = type.name := by
  constructor
  · intro h
    have hname := List.find?_some h
    exact (beq_iff_eq.mp hname).symm
  · rintro rfl
    cases type <;> rfl

theorem AgentType.not_marked (type : AgentType) : ¬Marked type.name := by
  cases type <;> simp [Marked, name]

namespace Schema

open Reading (Gives)

variable {v : Value} {fields : List (Value × Value)}

/-! ### What the check adds -/

theorem isSome_text?_iff (h : OptionalText v) : (text? v).isSome ↔ v.opened ≠ .null := by
  rcases h with rfl | ⟨s, rfl⟩ <;> simp [text?, Value.opened]

theorem isSome_map?_iff {α : Type} {P : List (Value × Value) → Prop}
    (f : List (Value × Value) → α) (h : OptionalMap P v) :
    (map? f v).isSome ↔ v.opened ≠ .null := by
  rcases h with hnull | ⟨fields, hopened, -⟩
  · simp [map?, hnull]
  · simp [map?, hopened]

/-- The check knows the agents; a value whose text is the name of one is a string. -/
theorem agentFields_iff (h : (Value.map fields).Short) :
    AgentFields fields ↔
      AgentReads fields ∧ ∃ type, AgentType.ofName? (agentOf fields).type = some type := by
  simp only [AgentType.ofName?_eq_some_iff, agentOf]
  constructor
  · rintro ⟨hkeys, ⟨type, htype⟩, hmodel, htemperature⟩
    refine ⟨⟨hkeys, ?_, hmodel, htemperature⟩, type, ?_⟩
    · rw [htype]
      exact ⟨by cases type <;> rfl, Value.hasText_str _⟩
    · rw [htype]
      rfl
  · rintro ⟨⟨hkeys, ⟨-, s, hs⟩, hmodel, htemperature⟩, type, htype⟩
    refine ⟨hkeys, ⟨type, ?_⟩, hmodel, htemperature⟩
    rw [textIn, hs] at htype
    obtain rfl : s = type.name := htype
    exact (h.lookup "type").eq_str_of_text hs (AgentType.not_marked type)

theorem optionalMap_agentFields_iff (h : v.Short) :
    OptionalMap AgentFields v ↔ OptionalMap AgentReads v ∧
      ∀ a, map? agentOf v = some a → ∃ type, AgentType.ofName? a.type = some type :=
  optionalMap_and_iff agentOf h fun _ => agentFields_iff

theorem misplaced_eq_nil_iff (h : StepReads fields) (type : StepType) :
    (stepOf fields).misplaced type = [] ↔
      ∀ field ∈ excluded type, (lookup field fields).opened = .null := by
  have hcommand : (stepOf fields).command.isSome ↔ (lookup "command" fields).opened ≠ .null :=
    isSome_text?_iff (h.texts "command" (by simp))
  have hprompt : (stepOf fields).prompt.isSome ↔ (lookup "prompt" fields).opened ≠ .null :=
    isSome_text?_iff (h.texts "prompt" (by simp))
  have hagent : (stepOf fields).agent.isSome ↔ (lookup "agent" fields).opened ≠ .null :=
    isSome_map?_iff agentOf h.agent
  cases type with
  | agent => simp [Step.misplaced, excluded, hcommand]
  | command => simp [Step.misplaced, excluded, hagent, hprompt]
  | approval =>
    have hpresent : (stepOf fields).presentFields = [] ↔ ¬(stepOf fields).agent.isSome ∧
        ¬(stepOf fields).command.isSome ∧ ¬(stepOf fields).prompt.isSome := by
      simp [Step.presentFields]
    rw [hagent, hcommand, hprompt] at hpresent
    simp [Step.misplaced, excluded, hpresent]

theorem type?_stepOf_eq_some_iff {type : StepType} :
    (stepOf fields).type? = some type ↔ lookup "type" fields = .str type.name := by
  simp only [Step.type?, stepOf]
  split
  · rename_i s hs
    rw [hs, StepType.ofName?_eq_some_iff, Value.str.injEq]
  · rename_i hstr
    exact iff_of_false (by rintro ⟨⟩) (hstr _)

theorem name_stepOf_ne_iff :
    (stepOf fields).name ≠ "" ↔ ∃ name, lookup "name" fields = .str name ∧ name ≠ "" := by
  simp only [stepOf]
  cases lookup "name" fields <;> simp [text?]

/-- **A step has the form if it can be read and has no errors.** -/
theorem stepFields_iff (h : (Value.map fields).Short) (names : List String) (index : Nat) :
    StepFields names index fields ↔
      StepReads fields ∧ (stepOf fields).errors index names = .ok [] := by
  have hagent := optionalMap_agentFields_iff (h.lookup "agent")
  rw [Step.errors_eq_nil_iff, Step.policyErrors_eq_nil_iff, name_stepOf_ne_iff]
  constructor
  · intro hfits
    obtain ⟨name, hname, hne⟩ := hfits.name
    obtain ⟨type, htype, hexcluded⟩ := hfits.type
    obtain ⟨hread, hknown⟩ := hagent.mp hfits.agent
    have hreads : StepReads fields :=
      { keys := hfits.keys
        name := .inr ⟨name, hname⟩
        type := .inr ⟨_, htype⟩
        texts := hfits.texts
        timeout := hfits.timeout
        agent := hread
        context := hfits.context }
    have hmisplaced := (misplaced_eq_nil_iff hreads type).mpr hexcluded
    exact ⟨hreads, ⟨name, hname, hne⟩, ⟨type, type?_stepOf_eq_some_iff.mpr htype, hmisplaced⟩,
      hknown, hfits.policy⟩
  · rintro ⟨hreads, hname, ⟨type, htype, hmisplaced⟩, hknown, hpolicy⟩
    exact
      { keys := hreads.keys
        name := hname
        type := ⟨type, type?_stepOf_eq_some_iff.mp htype,
          (misplaced_eq_nil_iff hreads type).mp hmisplaced⟩
        texts := hreads.texts
        timeout := hreads.timeout
        agent := hagent.mpr ⟨hreads.agent, hknown⟩
        context := hreads.context
        policy := hpolicy }

/-- **A workflow has the form if it can be read and has no errors.** -/
theorem workflowFields_iff (h : (Value.map fields).Short) (name : String) :
    WorkflowFields fields ↔
      WorkflowReads fields ∧ (workflowOf name fields).errors = .ok [] := by
  rw [Workflow.errors_eq_nil_iff]
  have hitem {items : List Value} (hitems : (lookup "steps" fields).opened = .list items)
      {v : Value} (hv : v ∈ items) (names : List String) (index : Nat) :
      Map (StepFields names index) v ↔
        Map StepReads v ∧ (stepOf (fieldsOf v)).errors index names = .ok [] := by
    have hshort : (Value.list items).Short := hitems ▸ (h.lookup "steps").opened
    exact map_and_iff (Value.short_list_iff.mp hshort v hv) fun _ hfields =>
      stepFields_iff hfields names index
  have hsteps {items : List Value} (hitems : (lookup "steps" fields).opened = .list items) :
      stepsOf fields = items.map fun v => stepOf (fieldsOf v) := by
    rw [stepsOf, itemsOf_eq hitems]
  constructor
  · rintro ⟨hkeys, hdescription, items, hitems, hne, hfits⟩
    refine ⟨⟨hkeys, hdescription, items, hitems, fun v hv => ?_⟩, ?_, fun i s hs => ?_⟩
    · obtain ⟨i, hi⟩ := List.getElem?_of_mem hv
      exact ((hitem hitems hv _ i).mp (hfits i v hi)).1
    · rw [workflowOf, hsteps hitems]
      simpa using hne
    · rw [workflowOf, hsteps hitems, List.getElem?_map, Option.map_eq_some_iff] at hs
      obtain ⟨v, hv, rfl⟩ := hs
      exact ((hitem hitems (List.mem_of_getElem? hv) _ i).mp (hfits i v hv)).2
  · rintro ⟨⟨hkeys, hdescription, items, hitems, hreads⟩, hne, herrors⟩
    rw [workflowOf, hsteps hitems] at hne
    refine ⟨hkeys, hdescription, items, hitems, by simpa using hne, fun i v hv => ?_⟩
    have hmem := List.mem_of_getElem? hv
    refine (hitem hitems hmem _ i).mpr ⟨hreads v hmem, herrors i _ ?_⟩
    rw [workflowOf, hsteps hitems, List.getElem?_map, hv]
    rfl

/-! ### Documents -/

theorem noteErrors_gives (w : Workflow) :
    Gives (Document.noteErrors w) (w.errors = .ok []) () := by
  unfold Document.noteErrors
  split
  · rename_i errors herrors
    refine (Gives.forM fun e => note_gives _ _).congr ?_ fun _ => rfl
    rw [herrors, Except.ok.injEq, List.eq_nil_iff_forall_not_mem]
  · rename_i e herrors
    exact (Gives.throw _ _).congr (by simp [herrors]) fun _ => rfl

theorem readEntries_gives {entries : List (Value × Value)} (h : (Value.map entries).Short)
    (acc : Fields Workflow) :
    Gives (Document.readEntries acc entries)
      (∀ e ∈ entries, e.1.HasText ∧ Map WorkflowFields e.2)
      (acc.setAll (entries.map entryOf)) := by
  rw [Value.short_map_iff] at h
  induction entries generalizing acc with
  | nil => exact (Gives.pure acc).congr (by simp) fun _ => rfl
  | cons e entries ih =>
    obtain ⟨-, hvalue⟩ := h e List.mem_cons_self
    have hrest := ih fun e he => h e (List.mem_cons_of_mem _ he)
    have hworkflow (name : String) : Map WorkflowFields e.2 ↔
        Map WorkflowReads e.2 ∧ (workflowOf name (fieldsOf e.2)).errors = .ok [] :=
      map_and_iff hvalue fun _ hfields => workflowFields_iff hfields name
    refine Gives.congr (Gives.bind
      (S := fun name => Map WorkflowReads e.2 ∧
        (workflowOf name (fieldsOf e.2)).errors = .ok [] ∧
          ∀ e ∈ entries, e.1.HasText ∧ Map WorkflowFields e.2)
      (g := fun name => Fields.setAll (acc.set name (workflowOf name (fieldsOf e.2)))
        (entries.map entryOf))
      (textOf_gives e.1) fun name => ?_) ?_ fun _ => rfl
    · refine Gives.congr (Gives.bind
        (S := fun found => (∀ w, found = some w → w.errors = .ok []) ∧
          ∀ e ∈ entries, e.1.HasText ∧ Map WorkflowFields e.2)
        (g := fun found => Fields.setAll (found.elim acc fun w => acc.set name w)
          (entries.map entryOf))
        (readWorkflow_gives name e.2) fun found => ?_) (by simp) fun _ => rfl
      cases found with
      | none => exact (hrest acc).congr (by simp) fun _ => rfl
      | some w => exact ((noteErrors_gives w).seq (hrest _)).congr (by simp) fun _ => rfl
    · rw [List.forall_mem_cons, hworkflow (textIn e.1), and_assoc, and_assoc]

/-- **A document gives workflows just if it has the form**, and then it gives what it says. -/
theorem workflows_eq_ok_iff {doc : Value} (h : doc.Short) {found : Fields Workflow} :
    Document.workflows doc = .ok found ↔ Conforms doc ∧ found = contents doc := by
  have hclean {fields entries : List (Value × Value)} (hfields : doc.opened = .map fields)
      (hentries : (lookup "workflows" fields).opened = .map entries) (hne : entries ≠ []) :
      Reading.Clean (Document.readEntries [] entries) found ↔ Conforms doc ∧ found = contents doc := by
    have hopened : (Value.map fields).Short := hfields ▸ h.opened
    have hshort : (Value.map entries).Short := hentries ▸ (hopened.lookup "workflows").opened
    have hconforms : Conforms doc ↔
        ∀ entry ∈ entries, entry.1.HasText ∧ Map WorkflowFields entry.2 := by
      rw [Conforms, map_iff hfields]
      constructor
      · rintro ⟨entries', hentries', -, hfits⟩
        cases hentries.symm.trans hentries'
        exact hfits
      · exact fun hfits => ⟨_, hentries, hne, hfits⟩
    have hcontents : contents doc = Fields.setAll [] (entries.map entryOf) := by
      rw [contents, fieldsOf_eq hfields, fieldsOf_eq hentries]
      rfl
    rw [(readEntries_gives hshort []).clean_iff found, hconforms, hcontents]
  rw [Document.workflows_eq_ok_iff]
  constructor
  · rintro ⟨fields, entries, hfields, hentries, hne, hread⟩
    exact (hclean hfields hentries hne).mp hread
  · intro hboth
    obtain ⟨fields, hfields, entries, hentries, hne, -⟩ := hboth.1
    exact ⟨fields, entries, hfields, hentries, hne, (hclean hfields hentries hne).mpr hboth⟩

end Schema

/-! ### Files -/

namespace Workflow

variable {parse : List Char → Except Fault Value} {file : String} {out : Surroundings} {w : World}

/-- A file with a text that is a document is loaded as this document is. -/
theorem perform_load_of_contains {bytes : List UInt8} {cs : List Char} {doc : Value}
    (hbytes : Contains file out w bytes) (hcs : Text.Utf8.decode? bytes = some cs)
    (hdoc : parse (Text.normalizeNewlines cs) = .ok doc) :
    ((load parse file).perform out w).1 = Document.workflows doc := by
  have htext : (Act.readText (filePath out.workspace file).text).perform out w =
      (.ok (Text.normalizeNewlines cs), w) := by
    rcases Act.readText_cases (filePath out.workspace file).text out w with
      ⟨hnul, -⟩ | ⟨-, ⟨cause, hread, -⟩ | ⟨bytes', hread, htext⟩⟩
    · exact absurd hnul hbytes.path
    · cases hbytes.bytes.symm.trans hread
    · cases hbytes.bytes.symm.trans hread
      rcases htext with ⟨hnone, -⟩ | ⟨cs', hcs', htext⟩
      · cases hcs.symm.trans hnone
      · cases hcs.symm.trans hcs'
        exact htext
  rw [perform_load_of_read ((Act.perform_bind_of_ok htext fun cs => .ofExcept (parse cs)).trans
    (Act.perform_ofExcept _ _ _)), hdoc]
  rfl

/-- A document with a workflow of two steps; the second one makes the first one be tried again. -/
def reviewed : Value :=
  let diff := Value.map
    [(.str "name", .str "diff"), (.str "type", .str "command"), (.str "command", .str "git diff"),
      (.str "timeout_sec", .int 30)]
  let agent := Value.map [(.str "type", .str "claude"), (.str "temperature", .int 1)]
  let context := Value.map [(.str "files", .list [.str "README.md"]), (.str "commands", .null)]
  let review := Value.map
    [(.str "name", .str "review"), (.str "type", .str "agent"), (.str "agent", agent),
      (.str "context", context), (.str "prompt", .str "$previous_output"),
      (.str "on_failure", .str "retry_step[diff]")]
  .map [(.str "workflows", .map [(.str "w", .map [(.str "steps", .list [diff, review])])])]

theorem short_reviewed : reviewed.Short := by
  have hdigits : 2 ≤ digitLimit := by decide
  have hlimit : 100 ≤ tenTo digitLimit := tenTo_le_tenTo hdigits
  suffices 30 < tenTo digitLimit ∧ 1 < tenTo digitLimit by simpa [reviewed] using this
  omega

/-- What loading a file with this document comes to. -/
def loadedReviewed : Except Fault (Fields Workflow) :=
  ((load (fun _ => .ok reviewed) defaultFile).perform .silent
    { files := ({} : FileTree).put [defaultFile] (.file []) }).1

/-- A document with an agent of this model. -/
def modelled (model : Value) : Value :=
  let agent := Value.map [(.str "type", .str "claude"), (.str "model", model)]
  let step := Value.map
    [(.str "name", .str "ask"), (.str "type", .str "agent"), (.str "agent", agent),
      (.str "prompt", .str "Well?")]
  .map [(.str "workflows", .map [(.str "w", .map [(.str "steps", .list [step])])])]

/-- An empty list within so many lists. -/
def nested : Nat → Value
  | 0 => .list []
  | n + 1 => .list [nested n]

/-- What loading a file with such a document comes to. -/
def loadedModelled (model : Value) : Except Fault (Fields Workflow) :=
  ((load (fun _ => .ok (modelled model)) defaultFile).perform .silent
    { files := ({} : FileTree).put [defaultFile] (.file []) }).1

theorem short_nested (n : Nat) : (nested n).Short := by
  induction n with
  | zero => simp [nested]
  | succ n ih => simpa [nested] using ih

end Workflow

end StepFlow

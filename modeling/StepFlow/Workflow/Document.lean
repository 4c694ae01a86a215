import StepFlow.Fields
import StepFlow.Workflow.Check

/-!
# Workflow documents

A document is a mapping with an entry `workflows`, which maps names to workflow definitions. Reading
a document notes everything that does not fit: fields of a wrong kind, unknown fields, and the errors
that checking the workflows finds. A document without errors gives its workflows in order.

Reading goes on after an error, so that one pass finds them all. Only a value that cannot be turned
into text, or a number that cannot be turned into a double, ends it with a fault.

## Main definitions

* `Reading` — reading with a list of errors at hand
* `Document.readAgent`, `readContext`, `readStep`, `readWorkflow` — the parts of a document
* `Document.workflows` — a whole document
-/

namespace StepFlow

/-- Reading that notes errors and may end with a fault. -/
abbrev Reading := ExceptT Fault (StateM (List DefinitionError))

namespace Document

/-- Note an error at a path. -/
def note (message path : String) : Reading Unit :=
  modify (· ++ [⟨message, path⟩])

/-- Note an error unless a condition holds. -/
def require (condition : Bool) (message path : String) : Reading Unit :=
  if condition then pure () else note message path

/-- The text of a value. -/
def textOf (v : Value) : Reading String :=
  match v.text with
  | .ok s => pure s
  | .error e => throw e

/-- Note every field that is not among the known ones; `what` words the beginning of the error. -/
def noteUnknown (known : List String) (what path : String) (fields : List (Value × Value)) :
    Reading Unit :=
  fields.forM fun f =>
    match f.1 with
    | .str name => require (known.contains name) s!"{what} '{name}'" path
    | key => do note s!"{what} '{← textOf key}'" path

/-! ### Fields -/

/-- A number that is no Boolean. -/
def isNumber : Value → Bool
  | .int _ | .double _ => true
  | _ => false

/-- A number greater than zero, or "not a number". -/
def isPositive (v : Value) : Bool :=
  match v.compareNumbers? (.int 0) with
  | some .lt | some .eq => false
  | _ => true

/-- A number from zero to one. -/
def isFraction (v : Value) : Bool :=
  match (Value.int 0).compareNumbers? v, v.compareNumbers? (.int 1) with
  | some .lt, some .lt | some .lt, some .eq | some .eq, some .lt => true
  | _, _ => false

/-- A number as a double. -/
def toDouble (v : Value) : Except Fault Value :=
  match v with
  | .int n =>
    match Double.ofInt? n with
    | some x => return .double x
    | none => throw (.number .beyondDouble)
  | v => return v

/-- A list of strings. -/
def strings? : List Value → Option (List String)
  | [] => some []
  | .str s :: vs => (strings? vs).map (s :: ·)
  | _ :: _ => none

/-- A field that holds a text or nothing; the text of a value that is neither is empty. -/
def optionalText : Value → Option String
  | .null => none
  | .str s => some s
  | _ => some ""

/-! ### Agents and contexts -/

def agentFields : List String := ["type", "model", "temperature"]

/-- The temperature of an agent. -/
def readTemperature (v : Value) (path label : String) : Reading Value := do
  if isNumber v then
    require (isFraction v) s!"Step '{label}': agent temperature must be between 0 and 1"
      s!"{path}.temperature"
    return v
  else
    match v with
    | .null => return .null
    | _ =>
      note s!"Step '{label}': agent temperature must be a number" s!"{path}.temperature"
      return .null

/-- The agent of a step. -/
def readAgent (path label : String) (v : Value) : Reading (Option AgentChoice) :=
  match v.opened with
  | .null => return none
  | .map fields => do
    noteUnknown agentFields s!"Step '{label}': unknown agent field" path fields
    let type := Value.lookup "type" fields
    require type.isTruthy s!"Step '{label}': agent missing required 'type' field" path
    let temperature ← readTemperature (Value.lookup "temperature" fields) path label
    let type ← if type.isTruthy then textOf type else pure ""
    let model ← match Value.lookup "model" fields with
      | .null => pure none
      | v => some <$> textOf v
    match toDouble temperature with
    | .ok temperature => return some { type, model, temperature }
    | .error e => throw e
  | _ => do
    note s!"Step '{label}': agent must be a dictionary" path
    return none

def contextFields : List String := ["files", "commands", "variables"]

/-- A field of a context that holds a list of strings or nothing. -/
def readStrings (field path label : String) (fields : List (Value × Value)) :
    Reading (List String) := do
  let v := Value.lookup field fields
  let found := match v.opened with
    | .list items => strings? items
    | v => if v.isTruthy then none else some []
  match found with
  | some list => return list
  | none =>
    note s!"Step '{label}': context.{field} must be a list of strings" s!"{path}.{field}"
    return []

/-- Entries with the text of every key in place of the key. -/
def textKeys : List (Value × Value) → List (Value × Value) → Reading (List (Value × Value))
  | acc, [] => return acc
  | acc, (k, v) :: rest => do textKeys (Value.insert (.str (← textOf k)) v acc) rest

/-- The variables of a context. -/
def readVariables (path label : String) (v : Value) : Reading (List (Value × Value)) := do
  match v.opened with
  | .map entries => textKeys [] entries
  | v =>
    require (!v.isTruthy) s!"Step '{label}': context.variables must be a dictionary"
      s!"{path}.variables"
    return []

/-- The context of a step. -/
def readContext (path label : String) (v : Value) : Reading (Option ContextSpec) :=
  match v.opened with
  | .null => return none
  | .map fields => do
    noteUnknown contextFields s!"Step '{label}': unknown context field" path fields
    let files ← readStrings "files" path label fields
    let commands ← readStrings "commands" path label fields
    let vars ← readVariables path label (Value.lookup "variables" fields)
    return some { files, commands, vars }
  | _ => do
    note s!"Step '{label}': context must be a dictionary" path
    return none

/-! ### Steps -/

def stepFields : List String :=
  ["name", "type", "agent", "command", "context", "prompt", "on_success", "on_failure",
    "timeout_sec"]

/-- A value is a text or nothing. -/
def isOptionalText : Value → Bool
  | .null | .str _ => true
  | _ => false

/-- The fields of a step whose name and type are in order. -/
def readStepFields (name label path : String) (fields : List (Value × Value)) : Reading Step := do
  for field in ["command", "prompt", "on_success"] do
    require (isOptionalText (Value.lookup field fields)) s!"Step '{label}': {field} must be a string"
      s!"{path}.{field}"
  let timeout := Value.lookup "timeout_sec" fields
  let timeoutFits := match timeout with
    | .null => true
    | v => isNumber v && isPositive v
  require timeoutFits s!"Step '{label}': timeout_sec must be a positive number" s!"{path}.timeout_sec"
  let agent ← readAgent s!"{path}.agent" label (Value.lookup "agent" fields)
  let context ← readContext s!"{path}.context" label (Value.lookup "context" fields)
  return {
    name, agent, context, timeout
    type := Value.lookup "type" fields
    command := optionalText (Value.lookup "command" fields)
    prompt := optionalText (Value.lookup "prompt" fields)
    onSuccess := optionalText (Value.lookup "on_success" fields)
    onFailure := Value.lookup "on_failure" fields }

/-- A step; `none` when it has no mapping, name or type to go by. -/
def readStep (path : String) (index : Nat) (v : Value) : Reading (Option Step) :=
  match v.opened with
  | .map fields => do
    match Value.lookup "name" fields with
    | .null => named "" fields
    | .str name => named name fields
    | v =>
      note s!"Step {index} name must be a string, got {v.kind}" path
      return none
  | _ => do
    note s!"Step {index} must be a dictionary" path
    return none
where
  /-- A step whose name is known. -/
  named (name : String) (fields : List (Value × Value)) : Reading (Option Step) := do
    let label := if name = "" then s!"<step_{index}>" else name
    noteUnknown stepFields s!"Step '{label}': unknown field" path fields
    let type := Value.lookup "type" fields
    if isOptionalText type then some <$> readStepFields name label path fields
    else
      note s!"Step '{label}': type must be a string, got {type.kind}" s!"{path}.type"
      return none

/-- The steps of a workflow, the first of which is at position `index`. -/
def readSteps (path : String) : (index : Nat) → List Value → Reading (List (Option Step))
  | _, [] => return []
  | index, v :: vs => do
    let s ← readStep s!"{path}.steps[{index}]" index v
    return s :: (← readSteps path (index + 1) vs)

/-! ### Workflows -/

def workflowFields : List String := ["description", "steps"]

/-- A workflow of a given name; `none` when it or one of its steps cannot be made out. -/
def readWorkflow (name : String) (v : Value) : Reading (Option Workflow) :=
  match v.opened with
  | .map fields => do
    let path := s!"workflows.{name}"
    noteUnknown workflowFields s!"Workflow '{name}': unknown field" path fields
    let description := Value.lookup "description" fields
    require (isOptionalText description) s!"Workflow '{name}': description must be a string"
      s!"{path}.description"
    match (Value.lookup "steps" fields).opened with
    | .list items => do
      let found ← readSteps path 0 items
      match found.mapM id with
      | none => return none
      | some steps =>
        let description := match description with
          | .str s => some s
          | _ => none
        return some { name, steps, description }
    | _ =>
      note s!"Workflow '{name}': 'steps' must be a list" s!"{path}.steps"
      return none
  | _ => do
    note s!"Workflow '{name}' must be a dictionary" s!"workflows.{name}"
    return none

/-- Note the errors that checking a workflow finds. -/
def noteErrors (w : Workflow) : Reading Unit :=
  match w.errors with
  | .ok errors => errors.forM fun e => note e.message s!"workflows.{w.name}.{e.path}"
  | .error e => throw e

/-- The workflows of a mapping, added to those read before. -/
def readEntries : Fields Workflow → List (Value × Value) → Reading (Fields Workflow)
  | acc, [] => return acc
  | acc, (key, v) :: rest => do
    let name ← textOf key
    match ← readWorkflow name v with
    | none => readEntries acc rest
    | some w => do
      noteErrors w
      readEntries (acc.set name w) rest

/-- The workflows of a document, by name and in order, unless there are errors. -/
def workflows (v : Value) : Except Fault (Fields Workflow) :=
  match v.opened with
  | .map fields =>
    match (Value.lookup "workflows" fields).opened with
    | .map (e :: entries) =>
      match (readEntries [] (e :: entries)).run [] with
      | (.error fault, _) => throw fault
      | (.ok found, []) => return found
      | (.ok _, errors) => throw (.definition errors)
    | _ => throw (.definition [⟨"'workflows' field is required and must be a non-empty mapping",
        "workflows"⟩])
  | _ => throw (.definition [⟨"Workflow file must be a YAML object/dictionary", ""⟩])

end Document

end StepFlow

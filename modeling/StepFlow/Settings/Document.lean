import StepFlow.Settings.Basic
import StepFlow.Value.Display

/-!
# Settings documents

Settings are stored as a mapping. A text in it that consists of a reference to a variable of the
environment stands for the value of the variable. Reading settings refuses what does not fit; what is
missing has its default.

## Main definitions

* `Settings.expand` — references replaced by the values of variables
* `Settings.ofEntries` — the settings in a mapping
* `Settings.toEntries` — the mapping of settings
-/

namespace StepFlow.Settings

/-- The settings of someone who has made none. -/
def defaults (logDir : String) : Settings where
  defaultAgent := some { type := AgentType.claude.name, model := some "claude-sonnet-4-5" }
  logDir := some logDir

/-! ### References -/

/-- The name of the variable that a text refers to: `$` and the name between braces, with at most a
line end behind it. -/
def reference? (s : String) : Option String :=
  match s.toList with
  | '$' :: '\x7b' :: rest =>
    let (name, rest) := rest.span (· ≠ '\x7d')
    if name.isEmpty then none
    else if rest = ['\x7d'] || rest = ['\x7d', '\n'] then some (String.ofList name)
    else none
  | _ => none

/-- The value of the variable that a text refers to, unless it is empty; else the text. -/
def expandText (env : Fields String) (s : String) : String :=
  match (reference? s).bind env.get? with
  | some v => if v = "" then s else v
  | none => s

/-- How deep texts are looked for: going from a collection to its elements takes two calls. -/
def expansionLimit : Nat := nestingLimit / 2

mutual

/-- All texts expanded in a value that lies `depth` collections deep. Keys stay as they are, and so do
rows and sets. `around` has the knots that the value lies in: going around one would have no end. -/
def expandIn (env : Fields String) (around : List (Nat × Value)) (depth : Nat) :
    Value → Except Fault Value
  | .str s => return .str (expandText env s)
  | .list xs => do
    requireRoom expansionLimit depth
    return .list (← expandItems env around (depth + 1) xs)
  | .map kvs => do
    requireRoom expansionLimit depth
    return .map (← expandEntries env around (depth + 1) kvs)
  | .knot mark body =>
    let whole := around.foldl (fun v k => v.close k.1 k.2) (.knot mark body)
    expandIn env ((mark, whole) :: around) depth body
  | .loop _ => throw .tooDeep
  | v => return around.foldl (fun v k => v.close k.1 k.2) v

def expandItems (env : Fields String) (around : List (Nat × Value)) (depth : Nat) :
    List Value → Except Fault (List Value)
  | [] => return []
  | x :: xs => return (← expandIn env around depth x) :: (← expandItems env around depth xs)

def expandEntries (env : Fields String) (around : List (Nat × Value)) (depth : Nat) :
    List (Value × Value) → Except Fault (List (Value × Value))
  | [] => return []
  | (k, v) :: kvs =>
    return (k, ← expandIn env around depth v) :: (← expandEntries env around depth kvs)

end

/-- All texts in a value expanded. -/
def expand (env : Fields String) (v : Value) : Except Fault Value := expandIn env [] 0 v

/-! ### Reading -/

/-- Settings are not read. -/
def refuse {α : Type} (f : SettingsFault) : Except Fault α := throw (.settings f)

/-- The temperature of the default agent as a double. -/
def readTemperature (v : Value) : Except Fault Value := do
  match v with
  | .null => return .null
  | .int _ | .double _ =>
    match (Value.int 0).compareNumbers? v, v.compareNumbers? (.int 1) with
    | some .lt, some .lt | some .lt, some .eq | some .eq, some .lt =>
      match v with
      | .int n => return .double (Double.ofInt n)
      | v => return v
    | _, _ => refuse .temperatureOutOfRange
  | _ => refuse .temperatureNotNumber

/-- The default agent. -/
def readAgent : Value → Except Fault AgentChoice
  | .map fields => do
    let type := Value.lookup "type" fields
    unless type.isSearchable do throw (.wrongKind s!"unhashable type: '{type.kind}'")
    let known ← match type with
      | .str s =>
        if (AgentType.ofName? s).isSome then pure s else refuse (.unknownAgent s)
      | v => do refuse (.unknownAgent (← v.text))
    let temperature ← readTemperature (Value.lookup "temperature" fields)
    let model ← match Value.lookup "model" fields with
      | .null => pure none
      | v => some <$> v.text
    return { type := known, model, temperature }
  | _ => refuse .agentNotMapping

/-- Order of two keys, if they can be compared. -/
def compareKeys? (x y : Value) : Option Ordering :=
  match x, y with
  | .str a, .str b => some (if a = b then .eq else if textLe a b then .lt else .gt)
  | .date a, .date b => some (compare a.toDays b.toDays)
  | .time a, .time b =>
    match a.offset, b.offset with
    | some s, some t =>
      some (compare (a.localMicroseconds - s * 1000000) (b.localMicroseconds - t * 1000000))
    | none, none => some (compare a.localMicroseconds b.localMicroseconds)
    | _, _ => none
  | .bytes a, .bytes b => some (if a = b then .eq else if a < b then .lt else .gt)
  | x, y => x.compareNumbers? y

/-- A number, truth values included. -/
def isNumeric : Value → Bool
  | .bool _ | .int _ | .double _ => true
  | _ => false

/-- The keys in order; keys that cannot be compared with one another are refused. What is no number
among the numbers has no place of its own. -/
def sortedKeys (keys : List Value) : Except Fault (List Value) :=
  let comparable := keys.all fun x => keys.all fun y =>
    x.sameKey y || (compareKeys? x y).isSome || (isNumeric x && isNumeric y)
  if comparable then
    return keys.mergeSort fun x y => compareKeys? x y ≠ some .gt
  else throw (.wrongKind "keys of different kinds have no order")

/-- The keys of the providers. -/
def readKeys (v : Value) : Except Fault (List (Value × Value)) := do
  if !v.isTruthy then return []
  match v with
  | .map entries =>
    let isKnown : Value → Bool
      | .str s => (keyVariables.get? s).isSome
      | _ => false
    let unknown := (entries.map (·.1)).filter (!isKnown ·)
    if unknown.isEmpty then return entries
    else
      let text ← (Value.list (← sortedKeys unknown)).text
      refuse (.unknownKeys text)
  | _ => refuse .keysNotMapping

/-- The keys of the providers as texts; those that are null drop out. -/
def keyTexts : List (Value × Value) → Except Fault (Fields String)
  | [] => return []
  | (_, .null) :: rest => keyTexts rest
  | (k, v) :: rest => do
    let name ← k.text
    let text ← v.text
    return (name, text) :: (← keyTexts rest)

/-- The log level. -/
def readLevel (v : Value) : Except Fault String := do
  match v with
  | .str s => if logLevelNames.contains s then return s else refuse (.badLevel s)
  | v => refuse (.badLevel (← v.text))

/-- The directory of run logs. -/
def readDirectory : Value → Except Fault (Option String)
  | .null => return none
  | .str s => return some s
  | _ => refuse .directoryNotText

/-- The settings in a mapping whose references are expanded; `base` has the defaults. -/
def ofEntries (base : Settings) (entries : List (Value × Value)) : Except Fault Settings := do
  let defaultAgent ← match Value.lookup? "default_agent" entries with
    | some v => some <$> readAgent v
    | none => pure base.defaultAgent
  let keys ← readKeys (Value.lookup "api_keys" entries)
  let logLevel ← match Value.lookup? "log_level" entries with
    | some v => readLevel v
    | none => pure base.logLevel
  let logDir ← match Value.lookup? "log_dir" entries with
    | some v => readDirectory v
    | none => pure base.logDir
  return { defaultAgent, logLevel, logDir, apiKeys := ← keyTexts keys }

/-! ### Writing -/

/-- A text that is left out when it is empty. -/
def nonEmptyText (name : String) : Option String → List (String × Value)
  | some s => if s = "" then [] else [(name, .str s)]
  | none => []

/-- The default agent as a mapping. -/
def agentValue (a : AgentChoice) : Value :=
  .ofFields <| [("type", .str a.type)] ++ nonEmptyText "model" a.model
    ++ match a.temperature with
      | .null => []
      | t => [("temperature", t)]

/-- The fields of settings; what is not set is left out. -/
def toFields (s : Settings) : Fields Value :=
  let agent := match s.defaultAgent with
    | some a => [("default_agent", agentValue a)]
    | none => []
  let keys := if s.apiKeys.isEmpty then [] else
    [("api_keys", Value.ofFields (s.apiKeys.map fun k => (k.1, .str k.2)))]
  [("log_level", .str s.logLevel)] ++ agent ++ keys ++ nonEmptyText "log_dir" s.logDir

/-- The mapping of settings. -/
def toEntries (s : Settings) : List (Value × Value) :=
  s.toFields.map fun f => (.str f.1, f.2)

end StepFlow.Settings

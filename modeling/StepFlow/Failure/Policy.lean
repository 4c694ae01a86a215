import StepFlow.Number.Numeral
import StepFlow.Text.Pieces
import StepFlow.Value.Display

/-!
# Failure policies

A step declares what follows its failure in one of two notations: a compact one, such as
`continue`, `stop` or `retry_step[Build]`, and a mapping with `action`, `retry_step`, `max_retries`
and `delay_ms`. `Policy.read` brings both into the normal form `FailureAction`.

## Main definitions

* `Policy.read` — a declaration as an action, absent when nothing is declared
* `Policy.compact?` — the target between the brackets of the compact notation
* `RetryTarget.resolve` — the position of a retry target among step names
-/

namespace StepFlow

/-- Why a declaration is no failure policy, or a retry target no step. -/
inductive PolicyFault where
  | unknownWord (raw : String)
  /-- An unknown `action`, by its text. -/
  | unknownAction (found : String)
  | targetMissing
  /-- A retry target that is neither an index nor a name, in literal form. -/
  | badTarget (found : String)
  | notCount (field kind : String)
  /-- A count below its least value, by its text. -/
  | countTooSmall (field : String) (least : Int) (found : String)
  | notPolicy (kind : String)
  | number (fault : NumberFault)
  /-- A value that is to be shown, with collections too deep in one another. -/
  | tooDeep
  | indexOutOfRange (index : String) (last : Int)
  | nameUnknown (name : String)
  deriving DecidableEq, Repr

namespace PolicyFault

def message : PolicyFault → String
  | unknownWord raw => s!"Unknown failure action '{raw}'"
  | unknownAction found =>
    s!"Unknown failure action '{found}'. Expected one of ['continue', 'stop', 'retry']"
  | targetMissing => "Retry action requires 'retry_step'"
  | badTarget found => s!"Invalid retry target: {found}"
  | notCount field kind => s!"'{field}' must be an integer, got {kind}"
  | countTooSmall field least found => s!"'{field}' must be >= {least}, got {found}"
  | notPolicy kind => s!"on_failure must be a string or mapping, got {kind}"
  | number fault => fault.message
  | tooDeep => Fault.tooDeep.message
  | indexOutOfRange index last => s!"Retry target index {index} out of range (0-{last})"
  | nameUnknown name => s!"Retry target '{name}' does not name a step"

/-- The name of a fault's kind. -/
def label : PolicyFault → String
  | number fault => fault.label
  | tooDeep => Fault.tooDeep.label
  | _ => "ValueError"

/-- The message of a refusal. What makes a value impossible to show is a refusal only if it lies in a
number; nesting is a fault of its own. -/
def refusal : PolicyFault → Except Fault String
  | tooDeep => throw .tooDeep
  | e => return e.message

end PolicyFault

/-- A policy is read, or refused for a cause. -/
abbrev Policied := Except PolicyFault

namespace Policy

open Text (after? isBlank isDigitLike trim trimRight)

private def lift {α : Type} (r : Except NumberFault α) : Policied α :=
  r.mapError .number

/-- A text to be shown in a refusal. -/
def shown (text : Except Fault String) : Policied String :=
  text.mapError fun
    | .number fault => .number fault
    | _ => .tooDeep

/-! ### Targets -/

/-- The target that a text denotes: an index when it is made of digits, a name otherwise. -/
def targetOfText (s : String) : Policied RetryTarget :=
  let cs := trim s.toList
  if cs.isEmpty then throw (.badTarget (Text.quoted s))
  else if cs.all isDigitLike then return .index (← lift (readInteger cs))
  else return .name (String.ofList cs)

/-- The target that a value denotes. -/
def targetOf (v : Value) : Policied RetryTarget :=
  match v with
  | .int n => return .index n
  | .str s => targetOfText s
  | v => do throw (.badTarget (← shown v.literal))

/-! ### The compact notation -/

/-- A character that may stand around the name of a retry target. -/
def isQuote (c : Char) : Bool := c = '\'' || c = '"'

theorem isQuote_iff {c : Char} : isQuote c = true ↔ c = '\'' ∨ c = '"' := by
  simp [isQuote]

/-- A character that may stand in the name of a retry target or of a referenced step. -/
def isNameChar (c : Char) : Bool := !isQuote c && c ≠ '[' && c ≠ ']'

theorem isNameChar_iff {c : Char} :
    isNameChar c = true ↔ c ≠ '\'' ∧ c ≠ '"' ∧ c ≠ '[' ∧ c ≠ ']' := by
  simp [isNameChar, isQuote, and_assoc]

/-- The text between the brackets of `retry_step[…]`. -/
def bracketed? (cs : List Char) : Option (List Char) := do
  let inner ← after? "retry_step[".toList cs
  match inner.reverse with
  | ']' :: body => some body.reverse
  | _ => none

/-- The body of a compact retry, without the blanks and the quotes around it. A body of blanks alone
is the last of them. -/
def body? (inner : List Char) : Option (List Char) :=
  match inner.dropWhile isBlank with
  | [] => inner.getLast?.map ([·])
  | q :: rest =>
    if isQuote q then
      match rest.span isNameChar with
      | (body, close :: after) =>
        if !body.isEmpty && close = q && after.all isBlank then some body else none
      | (_, []) => none
    else
      let body := trimRight (q :: rest)
      if body.all isNameChar then some body else none

/-- The body of `retry_step[…]`. -/
def compact? (cs : List Char) : Option (List Char) :=
  (bracketed? cs).bind body?

/-- A policy in the compact notation. -/
def readCompact (raw : String) : Policied FailureAction :=
  let cs := trim raw.toList
  if cs = "continue".toList then return .proceed
  else if cs = "stop".toList then return .stop
  else match compact? cs with
    | some body => return .retry (← targetOfText (String.ofList body)) 1 0
    | none => throw (.unknownWord raw)

/-! ### The structured notation -/

/-- An integer of at least `least`; Booleans are no counts. -/
def count (field : String) (least : Int) (v : Value) : Policied Int :=
  match v with
  | .int n =>
    if n < least then do throw (.countTooSmall field least (← lift (integerText n)))
    else return n
  | v => throw (.notCount field v.kind)

/-- A policy given by a mapping; `own` is the position of the declaring step, which a retry without
a target attempts again. -/
def readMapping (own : Option Int) (fields : List (Value × Value)) : Policied FailureAction := do
  match Value.lookup "action" fields with
  | .str "continue" => return .proceed
  | .str "stop" => return .stop
  | .str "retry" =>
    let target ← match Value.lookup? "retry_step" fields, own with
      | some v, _ => targetOf v
      | none, some i => pure (.index i)
      | none, none => throw .targetMissing
    let retries ← count "max_retries" 1 ((Value.lookup? "max_retries" fields).getD (.int 1))
    let delay ← count "delay_ms" 0 ((Value.lookup? "delay_ms" fields).getD (.int 0))
    return .retry target retries delay
  | v => throw (.unknownAction (← shown v.text))

/-- The action that a declaration stands for; `none` when nothing is declared. -/
def read (own : Option Int) (v : Value) : Policied (Option FailureAction) :=
  match v.opened with
  | .null => return none
  | .action a => return some a
  | .str s => some <$> readCompact s
  | .map fields => some <$> readMapping own fields
  | v => throw (.notPolicy v.kind)

end Policy

/-! ### Resolving targets -/

/-- The position of a retry target among the names of the steps; the first step of a name counts. -/
def RetryTarget.resolve (names : List String) : RetryTarget → Policied Nat
  | .index n =>
    if 0 ≤ n && n < names.length then return n.toNat
    else do
      let text ← (integerText n).mapError .number
      throw (.indexOutOfRange text (names.length - 1))
  | .name s =>
    match names.findIdx? (· == s) with
    | some i => return i
    | none => throw (.nameUnknown s)

end StepFlow

import StepFlow.Failure.Policy
import StepFlow.Json.Write

/-!
# Templates

The prompts and commands of a workflow are templates. They refer to the input of the run, to the
outputs of earlier attempts and to variables. Resolving a template replaces the references in five
passes, one kind of reference after the other:

* `{{input}}` — the input of the run
* `$previous_output` — the output of the last attempt
* `$step[2].output` — the output of the attempt with that number, counted from zero
* `$step["name"].output` — the output of the first attempt of the step with that name
* `${name}` — a variable

A pass reads what earlier passes have inserted. Outputs that do not exist are empty; a variable that
is not bound stays as it is written.
-/

namespace StepFlow

/-- What the references of a template denote. -/
structure Scope where
  input : String
  /-- Step name and output of every attempt so far, in order. -/
  outputs : List (String × String)
  vars : List (Value × Value)
  deriving Repr, Inhabited

namespace Scope

/-- The output of the last attempt, empty when there is none. -/
def previous (s : Scope) : String :=
  (s.outputs.getLast?.map (·.2)).getD ""

/-- The output of attempt number `n`, empty when there is none. -/
def outputAt (s : Scope) (n : Int) : String :=
  if 0 ≤ n then (s.outputs[n.toNat]?.map (·.2)).getD "" else ""

/-- The output of the first attempt of the named step, empty when there is none. -/
def outputOf (s : Scope) (name : String) : String :=
  ((s.outputs.find? (·.1 == name)).map (·.2)).getD ""

end Scope

/-- The text that a variable's value inserts: strings as they are, other scalars as they are written
in a document, and collections as JSON. -/
def Value.insertion (v : Value) : Except Fault String :=
  match v with
  | .bool b => return if b then "true" else "false"
  | .null => return "null"
  | .int n => (integerText n).mapError .number
  | .double x => return x.text
  | .str s => return s
  | .rough t => return t.smoothed
  | v => Json.write .inline v

namespace Template

open Text (after? isDecimal substitute replaceAll)

/-! ### References -/

def inputMark : List Char := "\x7b\x7binput\x7d\x7d".toList

def previousMark : List Char := "$previous_output".toList

def stepMark : List Char := "$step[".toList

def outputMark : List Char := "].output".toList

/-- `$step[12].output`: the digits, and the length of the reference. -/
def findIndexed (cs : List Char) : Option (List Char × Nat) := do
  let (digits, rest) := (← after? stepMark cs).span isDecimal
  if digits.isEmpty then none
  let _ ← after? outputMark rest
  return (digits, stepMark.length + digits.length + outputMark.length)

/-- The quote that a text begins with, if it begins with one, and what follows it. -/
def splitQuote : List Char → List Char × List Char
  | '"' :: rest => (['"'], rest)
  | '\'' :: rest => (['\''], rest)
  | rest => ([], rest)

/-- `$step["name"].output`, with double, single or no quotes: the name, and the length of the
reference. -/
def findNamed (cs : List Char) : Option (List Char × Nat) := do
  let (quote, body) := splitQuote (← after? stepMark cs)
  let (name, rest) := body.span Policy.isNameChar
  if name.isEmpty then none
  let _ ← after? (quote ++ outputMark) rest
  return (name, stepMark.length + 2 * quote.length + name.length + outputMark.length)

/-- `${name}`: the name, and the length of the reference. -/
def findVariable (cs : List Char) : Option (List Char × Nat) := do
  let (name, rest) := (← after? ['$', '\x7b'] cs).span (· ≠ '\x7d')
  if name.isEmpty then none
  let _ ← after? ['\x7d'] rest
  return (name, name.length + 3)

/-- The reference to a variable as it is written. -/
def variableMark (name : List Char) : List Char :=
  '$' :: '\x7b' :: (name ++ ['\x7d'])

/-! ### The five passes -/

/-- The text of an indexed output. -/
def indexedValue (scope : Scope) (digits : List Char) : Except Fault (List Char) :=
  match readInteger digits with
  | .ok n => return (scope.outputAt n).toList
  | .error e => throw (.number e)

/-- The text of a variable, or the reference itself when the variable is not bound. -/
def variableValue (scope : Scope) (name : List Char) : Except Fault (List Char) :=
  match Value.lookup? (String.ofList name) scope.vars with
  | some v => return (← v.insertion).toList
  | none => return variableMark name

/-- The template with its references replaced. -/
def resolveChars (scope : Scope) (cs : List Char) : Except Fault (List Char) := do
  let cs := replaceAll inputMark scope.input.toList cs
  let cs := replaceAll previousMark scope.previous.toList cs
  let cs ← substitute findIndexed (indexedValue scope) cs
  let cs ← substitute findNamed (fun n => pure (scope.outputOf (String.ofList n)).toList) cs
  substitute findVariable (variableValue scope) cs

/-- `resolveChars` on strings. -/
def resolve (scope : Scope) (template : String) : Except Fault String :=
  return String.ofList (← resolveChars scope template.toList)

/-- Resolve several templates; the first one that fails decides. -/
def resolveAll (scope : Scope) (templates : List String) : Except Fault (List String) :=
  templates.mapM (resolve scope)

end Template

end StepFlow

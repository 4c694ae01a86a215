import StepFlow.Json.Read

/-!
# Variables on the command line

An item `KEY=VALUE` binds a variable. A value that is JSON is taken as such, any other as text.
-/

namespace StepFlow

namespace Variables

/-- The value that a text denotes. JSON that is nested too deep has none. -/
def valueOf (cs : List Char) : Except Fault Value :=
  match Json.read cs with
  | .error .tooDeep => throw .tooDeep
  | .error _ => return .str (String.ofList cs)
  | .ok v => return v

/-- Key and value of an item. -/
def readItem (item : String) : Except Fault (Value × Value) :=
  match item.toList.span (· ≠ '=') with
  | (_, []) => throw (.variableItem (.noSeparator item))
  | ([], _) => throw (.variableItem (.noKey item))
  | (key, _ :: value) => return (.str (String.ofList key), ← valueOf value)

/-- The variables that items bind; of two items with one key the later one counts. -/
def read (items : List String) : Except Fault (List (Value × Value)) :=
  return Value.entriesOf (← items.mapM readItem)

end Variables

end StepFlow

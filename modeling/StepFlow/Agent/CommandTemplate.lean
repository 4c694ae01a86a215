import StepFlow.Fields
import StepFlow.Run.Template

/-!
# Command templates

The command line of an agent's client, given token by token with placeholders. `${PROMPT}` stands
for the prompt, which is put in last and not looked at again; any other `${name}` stands for a
parameter. The prompt may instead be passed on standard input.
-/

namespace StepFlow

/-- How the prompt reaches the client. -/
inductive PromptMode where
  | argv
  | stdin
  deriving DecidableEq, Repr, Inhabited

/-- The command line of a client. -/
structure CommandTemplate where
  name : String
  command : List String
  /-- Parameters that hold unless the choice of the agent says otherwise. -/
  defaults : Fields String := []
  mode : PromptMode := .argv
  deriving Repr, Inhabited

namespace CommandTemplate

open Text (occursIn pieces replaceAll)

def promptMark : List Char := Template.variableMark "PROMPT".toList

/-- The token has a placeholder for the prompt. -/
def asksPrompt (token : String) : Bool := occursIn promptMark token.toList

/-- What is wrong with a template. -/
def errors (t : CommandTemplate) : List String :=
  (if t.command.isEmpty then [s!"Template '{t.name}': command cannot be empty"] else [])
    ++ match t.mode with
      | .argv => []
      | .stdin => (t.command.filter asksPrompt).map fun _ =>
          s!"Template '{t.name}': " ++ "$\x7bPROMPT\x7d not allowed in stdin mode"

/-- The names in the placeholders of a token, in order. -/
def placeholders (token : List Char) : List String :=
  (pieces Template.findVariable 0 token).filterMap fun
    | .inl _ => none
    | .inr name => some (String.ofList name)

/-- The placeholders of a token that stand for parameters. -/
def parameterNames (token : String) : List String :=
  (placeholders token.toList).filter (· ≠ "PROMPT")

/-- Put the value of a parameter in the place of its placeholders; one without a value stays. -/
def fillParameter (params : Fields String) (token : List Char) (name : String) : List Char :=
  match params.get? name with
  | some value => replaceAll (Template.variableMark name.toList) value.toList token
  | none => token

/-- A token with its parameters and then, if it asks for it, the prompt put in. -/
def fillToken (t : CommandTemplate) (params : Fields String) (prompt token : String) : String :=
  let filled := (parameterNames token).foldl (fillParameter params) token.toList
  String.ofList <|
    if asksPrompt token && t.mode == .argv then replaceAll promptMark prompt.toList filled else filled

/-- The names that placeholders ask for and no parameter has, in order and each once. -/
def missing (t : CommandTemplate) (params : Fields String) : List String :=
  sortedTexts ((t.command.flatMap parameterNames).filter fun n => (params.get? n).isNone).eraseDups

/-- The command line for a prompt, followed by further arguments. -/
def build (t : CommandTemplate) (params : Fields String) (prompt : String) (extra : List String) :
    List String :=
  t.command.map (t.fillToken params prompt) ++ extra

end CommandTemplate

end StepFlow

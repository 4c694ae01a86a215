import StepFlow.Value.Display
import StepFlow.Workflow.Basic

/-!
# Plans

The plan of a workflow: its name and description, and a line for each step.
-/

namespace StepFlow.Plan

/-- The line of the step at a position. -/
def stepLine (index : Nat) (s : Step) : Except Fault String := do
  let type ← s.type.text
  let policy ← match s.onFailure with
    | .null => pure ""
    | v => do pure s!" on_failure={← v.text}"
  return s!"  [{index}] {s.name} ({type}){policy}"

/-- The lines of the steps, the first of which is at position `index`. -/
def stepLines : (index : Nat) → List Step → Except Fault (List String)
  | _, [] => return []
  | index, s :: steps => return (← stepLine index s) :: (← stepLines (index + 1) steps)

/-- The plan of a workflow. -/
def describe (w : Workflow) : Except Fault String := do
  let description := match w.description with
    | some d => if d = "" then [] else [s!"  {d}"]
    | none => []
  return "\n".intercalate (s!"Workflow: {w.name}" :: description ++ (← stepLines 0 w.steps))

end StepFlow.Plan

import StepFlow.Workflow.Document
import StepFlow.World

/-!
# Loading workflows

Workflows are loaded from a file in the workspace. A file that cannot be read or parsed counts as a
definition with an error. The reader that turns the text of the file into a document is a parameter.
-/

namespace StepFlow.Workflow

/-- The file that holds workflows unless another one is named. -/
def defaultFile : String := "workflow.yml"

/-- The path of a workflow file; a relative one is taken from the workspace. -/
def filePath (workspace : Path) (file : String) : Path :=
  workspace.join (Path.ofText (if file = "" then defaultFile else file))

/-- The fault that a workflow file is refused with. -/
def refusal (message : String) : Fault := .definition [⟨message, ""⟩]

/-- What a fault of reading or parsing a workflow file means. -/
def loadFault (file : Path) : Fault → Fault
  | .file .notFound _ => refusal s!"Workflow file not found: {file.text}"
  | .file cause path => refusal s!"Failed to load workflow file: {(Fault.file cause path).message}"
  | .notYaml => refusal s!"Failed to load workflow file: {Fault.notYaml.message}"
  | e => e

/-- The document in a workflow file. -/
def document (parse : List Char → Except Fault Value) (file : Path) : Act Value := do
  let parsed ← Act.attempt do
    let text ← Act.readText file.text
    Act.ofExcept (parse text)
  Act.ofExcept (parsed.mapError (loadFault file))

/-- The workflows in a file, by name and in order. -/
def load (parse : List Char → Except Fault Value) (file : String) : Act (Fields Workflow) := do
  let doc ← document parse (filePath (← read).workspace file)
  Act.ofExcept (Document.workflows doc)

/-- The workflow of a given name in a file. -/
def loadNamed (parse : List Char → Except Fault Value) (file name : String) : Act Workflow := do
  let workflows ← load parse file
  match workflows.get? name with
  | some w => return w
  | none =>
    let names := if workflows.isEmpty then "none" else ", ".intercalate (workflows.map (·.1))
    throw (.definition [⟨s!"Workflow '{name}' not found. Available: {names}", "workflows"⟩])

end StepFlow.Workflow

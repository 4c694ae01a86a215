import StepFlow.Files.Collect
import StepFlow.Run.Command
import StepFlow.Run.Template

/-!
# Contexts

The text that goes before an agent along with its prompt: the contents of files, the output of
commands and a list of variables, in this order. A part that has nothing to show is left out.
-/

namespace StepFlow

namespace ContextSpec

/-- The part with the contents of files. -/
def filesPart (c : ContextSpec) (collector : Collector) (scope : Scope) : Act (List String) := do
  if c.files.isEmpty then return []
  let patterns ← Act.ofExcept (Template.resolveAll scope c.files)
  let contents ← collector.collect patterns
  if contents.isEmpty then return []
  return ["=== Files ===\n" ++ renderFiles contents]

/-- The block of one command: the command itself and what it wrote. -/
def commandBlock (command : String) : Act String := do
  let r ← runCommand command .null
  if r.exitCode ≠ 0 then Act.warn s!"Context command exited with code {r.exitCode}: {command}"
  return s!"$ {command}\n{r.stdout}\n{r.stderr}"

/-- The part with the output of commands. -/
def commandsPart (c : ContextSpec) (scope : Scope) : Act (List String) := do
  if c.commands.isEmpty then return []
  let commands ← Act.ofExcept (Template.resolveAll scope c.commands)
  let blocks ← commands.mapM commandBlock
  return ["=== Command Output ===\n" ++ "\n---\n".intercalate blocks]

/-- The line of one variable: its name and its value as JSON. -/
def variableLine (entry : Value × Value) : Except Fault String := do
  let key ← entry.1.text
  let value ← Json.write .inline entry.2
  return s!"{key}: {value}"

/-- The part with the variables. -/
def variablesPart (c : ContextSpec) : Except Fault (List String) := do
  if c.vars.isEmpty then return []
  let lines ← c.vars.mapM variableLine
  return ["=== Variables ===\n" ++ "\n".intercalate lines]

/-- The text of a context. -/
def build (c : ContextSpec) (collector : Collector) (scope : Scope) : Act String := do
  let files ← c.filesPart collector scope
  let commands ← c.commandsPart scope
  let vars ← Act.ofExcept c.variablesPart
  return "\n\n".intercalate (files ++ commands ++ vars)

end ContextSpec

/-- The text of the context of a step, empty when it declares none. -/
def buildContext (c : Option ContextSpec) (scope : Scope) : Act String := do
  match c with
  | none => return ""
  | some c => c.build ⟨(← read).workspace, defaultIgnored⟩ scope

end StepFlow

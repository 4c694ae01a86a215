import StepFlow.Value.Display
import StepFlow.World

/-!
# Shell commands

Running a shell command never fails by itself: whatever becomes of the command, there is a result
with its output and an exit code. Only a breakdown of the outside is a fault.
-/

namespace StepFlow

/-- The result of a shell command. -/
structure CommandResult where
  stdout : String
  stderr : String
  exitCode : Int
  timedOut : Bool := false
  deriving DecidableEq, Repr, Inhabited

namespace CommandResult

/-- The exit code of a command whose time ran out. -/
def timeoutCode : Int := 124

def succeeded (r : CommandResult) : Bool := r.exitCode == 0

/-- The text of captured output; what was not captured is empty. -/
def decode (output : Option (List UInt8)) : String :=
  match output with
  | some bytes => String.ofList (Text.Utf8.decodeLossy bytes)
  | none => ""

/-- What a command's end means as a result. -/
def ofReply (timeout : Value) : ShellReply → Except Fault CommandResult
  | .exited stdout stderr code => return ⟨decode stdout, decode stderr, code, false⟩
  | .timedOut stdout stderr => do
    if decode stderr = "" then
      let t ← timeout.text
      return ⟨decode stdout, s!"Command timed out after {t} seconds", timeoutCode, true⟩
    else return ⟨decode stdout, decode stderr, timeoutCode, true⟩
  | .notStarted reason => return ⟨"", reason, 1, false⟩
  | .crashed reason => throw (.foreign "RuntimeError" reason)
  | .refused fault => throw fault

end CommandResult

/-- Run a shell command. -/
def runCommand (command : String) (timeout : Value) : Act CommandResult := do
  Act.ofExcept (CommandResult.ofReply timeout (← Act.shell ⟨command, timeout⟩))

end StepFlow

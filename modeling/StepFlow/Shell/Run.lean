import StepFlow.Shell.Evaluate
import StepFlow.World

/-!
# The shell as an answer to calls

A command of a workflow is carried out by a shell whose input is empty, in a directory of a file tree,
with an environment, and within the time that the call allows.

## Main definitions

* `reply` — the answer to a call and the changes of files it made
-/

namespace StepFlow.Shell

/-- Nanoseconds of a number of seconds. Anything but a number sets no limit. -/
def limitOf : Value → Option Int
  | .bool b => some (if b then tenTo 9 else 0)
  | .int n => some (n * tenTo 9)
  | .double x => x.fraction?.map fun (num, den) => (num * tenTo 9).fdiv den
  | _ => none

/-- Levels of nesting that a session may have. -/
def nestingLimit : Nat := 2000

/-- The session in which a command begins. -/
def startSession (env : Fields String) (here : Place) (files : FileTree) (limit : Option Nat) :
    Session :=
  let pwd := "/" ++ "/".intercalate here
  let vars := env.set "PWD" pwd
  { vars := withOwnVariables vars, exported := vars.map (·.1), files, here, limit }

/-- What was written, if anything was. -/
private def partialOutput (bytes : List UInt8) : Option (List UInt8) :=
  if bytes.isEmpty then none else some bytes

/-- The answer to a call, and the changes of files that carrying it out made. -/
def reply (env : Fields String) (here : Place) (files : FileTree) (call : ShellCall) :
    ShellReply × List Change :=
  let limit := limitOf call.timeout
  if call.command.toList.contains '\x00' then (.refused .nulInPath, [])
  else if limit.any (· ≤ 0) then (.timedOut none none, [])
  else
    let start := startSession env here files (limit.map Int.toNat)
    let (ending, s) := (runShell (evaluator nestingLimit) call.command).run.run start
    let answer := match ending with
      | .ok n | .error (.exited n) | .error (.returned n) => ShellReply.exited s.stdout s.stderr n
      | .error (.left _) | .error (.skipped _) => .exited s.stdout s.stderr 0
      | .error .refused => .exited s.stdout s.stderr 2
      | .error (.killed n) => .exited s.stdout s.stderr (-(n : Int))
      | .error .timedOut => .timedOut (partialOutput s.stdout) (partialOutput s.stderr)
    (answer, s.changes)

end StepFlow.Shell

import Std.Time.DateTime.Timestamp
import StepFlow.Command.Perform
import StepFlow.Shell.Run

/-!
# The program

The outer layer: it reads the arguments, the environment, the clock and the files below the current
directory and the settings directory, performs the command line, and then carries over what the
command did: changes of files, lines of output and log lines.

Shell commands are answered by the shell of this library. There are no agents and no chat service
here: calls of them end like calls of programs that are not installed.
-/

namespace StepFlow

/-- The directories below a directory that are read: deeper ones count as empty. -/
private def depthLimit : Nat := 24

/-- The directories that are not read. -/
private def unreadNames : List String := [".git", "node_modules"]

/-- Put what lies below a directory into a tree. -/
private def readBelow : (depth : Nat) → Place → FileTree → IO FileTree
  | 0, _, t => return t
  | depth + 1, place, t => do
    let path := (← IO.currentDir) / ("/" ++ "/".intercalate place)
    unless ← path.isDir do return t
    let mut t := t
    for e in ← path.readDir do
      let below := place ++ [e.fileName]
      if ← e.path.isDir then
        t := t.put below .directory
        unless unreadNames.contains e.fileName do t ← readBelow depth below t
      else if ← e.path.pathExists then
        t := t.put below (.file (← IO.FS.readBinFile e.path).toList)
    return t

/-- Put a directory and those it lies in into a tree. -/
private def putWithParents (t : FileTree) (place : Place) : FileTree :=
  ((List.range place.length).map fun n => place.take (n + 1)).foldl
    (fun t p => if (t.get? p).isSome then t else t.put p .directory) t

/-- Make a change of the tree on the disk. -/
private def carryOver (c : Change) : IO Unit := do
  let here ← IO.currentDir
  let path (place : Place) := here / ("/" ++ "/".intercalate place)
  match c with
  | .write place bytes => IO.FS.writeBinFile (path place) ⟨bytes.toArray⟩
  | .makeDirectory place => IO.FS.createDirAll (path place)
  | .rename source target => IO.FS.rename (path source) (path target)
  | .remove place =>
    if ← (path place).isDir then IO.FS.removeDir (path place) else IO.FS.removeFile (path place)

/-- The variables of the environment that the program looks at. -/
private def variableNames : List String := ["HOME", "PATH", "USER", "LANG", "OPENAI_API_KEY"]

/-- The microseconds from the beginning of year 1 to that of 1970. -/
private def epoch : Nat := 719162 * 86400 * 1000000

/-- The moment shown by the clock. -/
private def currentInstant : IO Instant := do
  let t ← Std.Time.Timestamp.now
  return ⟨epoch + t.toNanosecondsSinceUnixEpoch.val.toNat / 1000⟩

/-- What the identifier of a new run ends in: six letters or digits. -/
private def randomSuffix : IO String := do
  let letters := "abcdefghijklmnopqrstuvwxyz0123456789".toList
  let mut suffix := ""
  for _ in [0:6] do
    suffix := suffix.push (letters.getD (← IO.rand 0 35) 'a')
  return suffix

/-- The number of a severity, as log levels count. -/
private def severityNumber : Severity → Nat
  | .info => 20
  | .warning => 30
  | .error => 40

private def severityName : Severity → String
  | .info => "INFO"
  | .warning => "WARNING"
  | .error => "ERROR"

/-- The settings directory that arguments name, if they can be read. -/
private def settingsOf (args : List String) : Act (Option (Arguments × SettingsDirectory)) := do
  match Arguments.read args with
  | .ok a => return some (a, ← SettingsDirectory.named a.configDir)
  | .error _ => return none

/-- The lowest log level shown. Only runs look at the level of the settings. -/
private def levelOf (args : List String) : Act Nat := do
  match ← settingsOf args with
  | some (a, directory) =>
    match a.command with
    | some (.run _, choice) =>
      match ← Act.attempt (directory.load Yaml.read) with
      | .ok settings => return choice.levelNumber (some settings.logLevel)
      | .error _ => return choice.levelNumber none
    | some (_, choice) => return choice.levelNumber none
    | none => return 30
  | none => return 30

/-- Perform a command line and carry over what it did. -/
def runProgram (args : List String) : IO UInt32 := do
  let env ← variableNames.filterMapM fun n => return (← IO.getEnv n).map fun v => (n, v)
  let workspace := Path.ofText (← IO.currentDir).toString
  let now ← currentInstant
  let suffix ← randomSuffix
  let out : Surroundings :=
    { env, workspace
      shell := fun _ files call => Shell.reply env workspace.names files call
      program := fun _ _ => .notFound
      chat := fun _ _ => .failed "Connection error."
      clock := fun _ => now
      sleep := fun _ => clockRefusal
      runSuffix := suffix }
  let tree ← readBelow depthLimit workspace.names (putWithParents {} workspace.names)
  let tree ← match ((settingsOf args).perform out { files := tree }).1 with
    | .ok (some (_, directory)) => do
      let place := if directory.path.isAbsolute then directory.path.names
        else workspace.names ++ directory.path.names
      if ← ((← IO.currentDir) / ("/" ++ "/".intercalate place)).isDir then
        readBelow depthLimit place (putWithParents tree place)
      else pure (putWithParents tree place.dropLast)
    | _ => pure tree
  let start : World := { files := tree }
  let level := (((levelOf args).perform out start).1).toOption.getD 30
  let (result, w) := (performLine args).perform out start
  w.changes.forM carryOver
  w.logs.forM fun l => do
    if level ≤ severityNumber l.severity then
      IO.eprintln s!"{severityName l.severity} - {l.message}"
  w.printed.forM IO.println
  match result with
  | .ok (.performed code) | .ok (.refused code) => return UInt32.ofNat code
  | .error e =>
    IO.eprintln s!"{e.label}: {e.message}"
    return 1

end StepFlow

def main (args : List String) : IO UInt32 := StepFlow.runProgram args

import StepFlow.Files.Home
import StepFlow.Settings.Document
import StepFlow.Yaml.Write

/-!
# Stored settings

Settings lie in a file of their own directory, below the home of the user unless another one is
named. Without a file the defaults hold. The reader that turns the text of the file into a document
is a parameter.

## Main definitions

* `SettingsDirectory` — where settings lie
* `SettingsDirectory.load`, `save` — the file
* `SettingsDirectory.establish` — make what is missing
* `SettingsDirectory.logDirectory` — where run logs go
-/

namespace StepFlow

/-- The home directory that a name stands for. One that begins with a tilde again is none. -/
def homePath (name : String) : Act Path := do
  match homeOf? (← Act.envValue "HOME") name with
  | some home =>
    let home := withoutEndSlashes home
    if home.toList.head? = some '~' then unknown else return Path.ofText home
  | none => unknown
where
  unknown : Act Path := throw (.foreign "RuntimeError" "Could not determine home directory.")

/-- A path with a home directory in place of a name with a tilde at its beginning. -/
def expandHome (p : Path) : Act Path := do
  match p.names with
  | name :: rest =>
    if p.isAbsolute || name.toList.head? ≠ some '~' then return p
    else return (← homePath name).join ⟨"", rest⟩
  | [] => return p

/-- The directory that settings lie in. -/
structure SettingsDirectory where
  path : Path
  deriving Repr, Inhabited

namespace SettingsDirectory

/-- The directory of a user who has named none. -/
def standard : Act SettingsDirectory := return ⟨(← homePath "~").child ".ai-workflow"⟩

/-- The directory of a given name; an empty name means the standard one. -/
def named (name : Option String) : Act SettingsDirectory :=
  match name with
  | none | some "" => standard
  | some name => return ⟨← expandHome (Path.ofText name)⟩

/-- The file that holds the settings. -/
def file (d : SettingsDirectory) : String := (d.path.child "config.yml").text

/-- The directory of run logs of a user who has named none. -/
def logs (d : SettingsDirectory) : Path := d.path.child "logs"

/-- The settings that hold without a file. -/
def defaults (d : SettingsDirectory) : Settings := .defaults d.logs.text

def fileExists (d : SettingsDirectory) : Act Bool := Act.exists? d.file

/-- What a fault of reading or parsing the file means. -/
def loadFault (d : SettingsDirectory) : Fault → Fault
  | .file cause path => .settings (.unreadable d.file (Fault.file cause path).message)
  | .notYaml => .settings (.unreadable d.file Fault.notYaml.message)
  | e => e

/-- The document in the file. -/
def document (parse : List Char → Except Fault Value) (d : SettingsDirectory) : Act Value := do
  let parsed ← Act.attempt do
    let text ← Act.readText d.file
    Act.ofExcept (parse text)
  Act.ofExcept (parsed.mapError d.loadFault)

/-- The settings in the file, or the defaults without one. -/
def load (parse : List Char → Except Fault Value) (d : SettingsDirectory) : Act Settings := do
  if ← d.fileExists then
    let found ← d.document parse
    match found.opened with
    | .null => return d.defaults
    | .map _ =>
      match ← Act.ofExcept (Settings.expand (← read).env found) with
      | .map entries => Act.ofExcept (Settings.ofEntries d.defaults entries)
      | _ => throw (.settings (.notMapping d.file))
    | _ => throw (.settings (.notMapping d.file))
  else return d.defaults

/-- Store settings. -/
def save (d : SettingsDirectory) (s : Settings) : Act Unit := do
  Act.ensureDirectory d.path
  let place ← Act.openForWriting d.file
  let text ← Act.ofExcept (Yaml.write s.toEntries)
  Act.change (.write place (Text.Utf8.encode text.toList))

/-- Make the directories and the file that are missing, and load the settings. -/
def establish (parse : List Char → Except Fault Value) (d : SettingsDirectory) : Act Settings := do
  Act.ensureDirectory d.path
  Act.ensureOneDirectory d.logs.text
  unless ← d.fileExists do
    d.save d.defaults
    Act.info s!"Created default config: {d.file}"
  d.load parse

/-- The directory of run logs. -/
def logDirectory (d : SettingsDirectory) (s : Settings) : Act Path :=
  match s.logDir with
  | none | some "" => return d.logs
  | some dir => expandHome (Path.ofText dir)

end SettingsDirectory

end StepFlow

import StepFlow.Shell.Programs.Remove

/-!
# Copying and moving

Copies and moves of files and directories to a new name or into a directory. A link is a copy.

## Main definitions

* `cp`, `mv`, `ln`
-/

namespace StepFlow.Shell

/-- What is done with files. -/
private inductive TransferKind where
  | copy
  | move
  | link
  deriving DecidableEq

private def TransferKind.program : TransferKind → String
  | .copy => "cp"
  | .move => "mv"
  | .link => "ln"

/-- How files are copied or moved. -/
private structure TransferMode where
  kind : TransferKind
  recursive : Bool
  /-- Files that exist are left alone. -/
  keeps : Bool
  asks : Bool
  tells : Bool
  force : Bool

/-! ### Single files -/

/-- The line that tells what is done. -/
private def TransferMode.told (m : TransferMode) (source target : String) : String :=
  let source := quotedName source
  let target := quotedName target
  match m.kind with
  | .copy => s!"{source} -> {target}\n"
  | .move => s!"renamed {source} -> {target}\n"
  | .link => s!"{target} => {source}\n"

private def refuse (st : Streams) (m : TransferMode) (message : String) : Acting Bool := do
  emitText st.err s!"{m.kind.program}: {message}\n"
  return false

/-- A file cannot be written where it should go. -/
private def refuseTarget (st : Streams) (m : TransferMode) (source target : String) (e : FileCause) :
    Acting Bool :=
  let shownSource := quotedName source
  let shownTarget := quotedName target
  match m.kind with
  | .copy => refuse st m s!"cannot create regular file {shownTarget}: {e.description}"
  | .move => refuse st m s!"cannot move {shownSource} to {shownTarget}: {e.description}"
  | .link => refuse st m s!"failed to create hard link {shownTarget}: {e.description}"

/-- Copy or move a file to a path. -/
private def transferFile (st : Streams) (m : TransferMode) (name target : String) (source : Place)
    (bytes : List UInt8) : Acting Bool := do
  let s ← get
  let shown := quotedName name
  let shownTarget := quotedName target
  if s.files.isDirectory s.here target then
    return ← refuse st m s!"cannot overwrite directory {shownTarget} with non-directory"
  if target.toList.getLast? = some '/' && !s.files.exists? s.here target then
    return ← refuseTarget st m name target .notDirectory
  match s.files.writable s.here target with
  | .error e => refuseTarget st m name target e
  | .ok place =>
    if place = source then
      return ← refuse st m s!"{shown} and {shownTarget} are the same file"
    if (s.files.get? place).isSome then
      if m.keeps then return true
      if m.kind = .link && !m.force then return ← refuseTarget st m name target .alreadyExists
      if m.asks then
        unless ← asks st s!"{m.kind.program}: overwrite {shownTarget}? " do return m.kind ≠ .copy
    if m.tells then emitText st.out (m.told name target)
    change (if m.kind = .move then .rename source place else .write place bytes)
    let others := s.runnable.filter (· ≠ place)
    modify fun t =>
      { t with runnable := if s.runnable.contains source then place :: others else others }
    return true

/-! ### Directories -/

/-- Copy what lies in a directory, given by its names before the copy began, to another. -/
private def copyBelow (st : Streams) (m : TransferMode) (forbidden : Place) : (depth : Nat) →
    (name target : String) → Acting Bool
  | 0, _, _ => return false
  | depth + 1, name, target => do
    let s ← get
    let shown := quotedName name
    let shownTarget := quotedName target
    match s.files.stat s.here name, s.files.locate s.here name with
    | .error e, _ | _, .error e => refuse st m s!"cannot stat {shown}: {e.description}"
    | .ok (.file bytes), .ok source => transferFile st m name target source bytes
    | .ok .directory, .ok _ =>
      let entries := ((s.files.list s.here name).toOption).getD []
      let made ← match s.files.makable s.here target with
        | .ok place =>
          change (.makeDirectory place)
          if m.tells then emitText st.out (m.told name target)
          pure true
        | .error .alreadyExists =>
          if s.files.isDirectory s.here target then pure true
          else refuse st m s!"cannot overwrite non-directory {shownTarget} with directory {shown}"
        | .error e => refuse st m s!"cannot create directory {shownTarget}: {e.description}"
      if !made then return false
      let mut complete := true
      for n in entries do
        let inside := Glob.joined name n
        unless (s.files.locate s.here inside).toOption = some forbidden do
          unless ← copyBelow st m forbidden depth inside (Glob.joined target n) do complete := false
      return complete

/-- Move a directory to a path. -/
private def moveDirectory (st : Streams) (m : TransferMode) (name target : String) (source : Place) :
    Acting Bool := do
  let s ← get
  let shown := quotedName name
  let shownTarget := quotedName target
  let goOn (place : Place) : Acting Bool := do
    for (p, entry) in s.files.entries do
      if let some rest := source.isPrefixOf? p then
        let there := place ++ rest
        match entry with
        | .directory => unless (← get).files.get? there = some .directory do change (.makeDirectory there)
        | .file bytes => change (.write there bytes)
    let inside := (s.files.entries.map (·.1)).filter fun p => source.isPrefixOf p
    for p in inside.mergeSort fun a b => b.length ≤ a.length do change (.remove p)
    if m.tells then emitText st.out (m.told name target)
    return true
  match s.files.locate s.here target with
  | .error e => refuseTarget st m name target e
  | .ok place =>
    if source.isPrefixOf place then
      return ← refuse st m s!"cannot move {shown} to a subdirectory of itself, {shownTarget}"
    match s.files.get? place with
    | some (.file _) =>
      refuse st m s!"cannot overwrite non-directory {shownTarget} with directory {shown}"
    | some .directory =>
      if (s.files.namesIn place).isEmpty then goOn place
      else refuse st m s!"cannot move {shown} to {shownTarget}: Directory not empty"
    | none =>
      match s.files.makable s.here target with
      | .ok place => goOn place
      | .error e => refuseTarget st m name target e

/-- Copy or move one file or directory to a path. -/
private def transferOne (st : Streams) (m : TransferMode) (name target : String) : Acting Bool := do
  let s ← get
  let shown := quotedName name
  let shownTarget := quotedName target
  match s.files.stat s.here name, s.files.locate s.here name with
  | .error e, _ | _, .error e =>
    if m.kind = .link then refuse st m s!"failed to access {shown}: {e.description}"
    else refuse st m s!"cannot stat {shown}: {e.description}"
  | .ok (.file bytes), .ok source => transferFile st m name target source bytes
  | .ok .directory, .ok source =>
    match m.kind with
    | .link => refuse st m s!"{name}: hard link not allowed for directory"
    | .move => moveDirectory st m name target source
    | .copy =>
      if !m.recursive then refuse st m s!"-r not specified; omitting directory {shown}"
      else
        let goal := ((s.files.locate s.here target).toOption).getD []
        let isInside := source.isPrefixOf goal && source ≠ goal
        let complete ← copyBelow st m goal (depthOf s.files + 1) name target
        if isInside then
          refuse st m s!"cannot copy a directory, {shown}, into itself, {shownTarget}"
        else return complete

/-! ### Operands -/

private def transferOptions : List ProgramOption :=
  flags [["r", "R", "recursive"], ["a", "archive"], ["f", "force"], ["i", "interactive"],
    ["n", "no-clobber"], ["v", "verbose"], ["p"], ["T", "no-target-directory"], ["d"], ["l", "link"],
    ["s", "symbolic"], ["P", "no-dereference"], ["L", "dereference"], ["H"], ["x", "one-file-system"],
    ["b"], ["Z"], ["strip-trailing-slashes"], ["parents"], ["remove-destination"],
    ["attributes-only"], ["copy-contents"]]
  ++ valued [["t", "target-directory"], ["S", "suffix"], ["no-preserve"], ["sparse"]]
  ++ optionallyValued [["u", "update"], ["backup"], ["preserve"], ["reflink"], ["context"]]

/-- The path at which a file goes into a directory. -/
private def inside (directory name : String) : String := Glob.joined directory (lastName name)

/-- Copy, move or link files as arguments say. -/
private def transfer (kind : TransferKind) : Program :=
  withOptions kind.program 1 transferOptions fun st g => do
    let program := kind.program
    let m : TransferMode :=
      { kind, recursive := g.has "r" || g.has "a", keeps := g.last? ["n", "f", "i"] = some "n"
        asks := g.last? ["n", "f", "i"] = some "i", tells := g.has "v", force := g.has "f" }
    let s ← get
    let all (directory : String) (names : List String) : Acting Nat := do
      let mut complete := true
      for n in names do
        unless ← transferOne st m n (inside directory n) do complete := false
      return statusOf complete
    let refuseDirectory (what directory : String) : Acting Nat := do
      let shown := quotedName directory
      let cause := match s.files.stat s.here directory with
        | .error e => e.description
        | .ok _ => "Not a directory"
      emitText st.err s!"{program}: {what} {shown}: {cause}\n"
      return 1
    match g.operands, g.value? "t" with
    | [], _ => misused st program "missing file operand" 1
    | names, some directory =>
      if s.files.isDirectory s.here directory then all directory names
      else refuseDirectory "target directory" directory
    | [n], none =>
      if kind = .link then all "." [n]
      else
        let shown := quotedName n
        misused st program s!"missing destination file operand after {shown}" 1
    | [n, target], none =>
      if s.files.isDirectory s.here target && !g.has "T" then all target [n]
      else return statusOf (← transferOne st m n target)
    | names@(_ :: _ :: extra :: _), none =>
      if g.has "T" then return ← extraOperand st program extra
      let target := names.getLastD ""
      if s.files.isDirectory s.here target then all target names.dropLast
      else refuseDirectory "target" target

/-- Copy files. -/
def cp : Program := transfer .copy

/-- Move files. -/
def mv : Program := transfer .move

/-- Give files further names. -/
def ln : Program := transfer .link

end StepFlow.Shell

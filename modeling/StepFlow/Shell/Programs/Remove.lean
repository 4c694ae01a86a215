import StepFlow.Files.Glob
import StepFlow.Shell.Programs.Options
import StepFlow.Shell.Programs.Walk

/-!
# Removing files and directories

## Main definitions

* `asks` — questions that the input answers
* `rm`, `rmdir`
-/

namespace StepFlow.Shell

/-- Ask a question; the next line of the input answers it. -/
def asks (st : Streams) (question : String) : Acting Bool := do
  emitText st.err question
  let bytes := (← get).feed.bytes
  let answer := bytes.takeWhile (· ≠ lineFeed)
  keepInput (bytes.drop (answer.length + 1))
  return answer.head? = some 121 || answer.head? = some 89

/-- How things are removed. -/
private structure Removal where
  recursive : Bool
  /-- Empty directories are removed as well. -/
  directories : Bool
  force : Bool
  asks : Bool
  tells : Bool

/-- The words for what a path leads to. -/
private def kindOf (s : Session) (path : String) : String :=
  match s.files.stat s.here path with
  | .ok .directory => "directory"
  | .ok (.file []) => "regular empty file"
  | _ => "regular file"

/-- Whether something may be removed, after asking if that is wanted. -/
private def mayRemove (st : Streams) (how : Removal) (path : String) : Acting Bool := do
  if !how.asks then return true
  let kind := kindOf (← get) path
  let shown := quotedName path
  asks st s!"rm: remove {kind} {shown}? "

/-- Remove what a path leads to, which exists, with all that lies in it; gives whether nothing had to
stay. -/
private def removeBelow (st : Streams) (how : Removal) : (depth : Nat) → String → Acting Bool
  | 0, _ => return false
  | depth + 1, path => do
    let s ← get
    let shown := quotedName path
    let remove (told : String) : Acting Bool := do
      match s.files.locate s.here path with
      | .error _ => return false
      | .ok place =>
        if ← mayRemove st how path then
          change (.remove place)
          if how.tells then emitText st.out told
        return true
    if !s.files.isDirectory s.here path then remove s!"removed {shown}\n"
    else
      let entries := ((s.files.list s.here path).toOption).getD []
      if !how.recursive && !entries.isEmpty then
        emitText st.err s!"rm: cannot remove {shown}: Directory not empty\n"
        return false
      if how.asks && !entries.isEmpty then
        unless ← asks st s!"rm: descend into directory {shown}? " do return true
      let mut complete := true
      for n in entries do
        unless ← removeBelow st how depth (Glob.joined path n) do complete := false
      let left := (((← get).files.list s.here path).toOption).getD []
      if left.isEmpty then return (← remove s!"removed directory {shown}\n") && complete
      else return complete

/-- The last name of a path is one of the two that every directory has. -/
private def endsInDots (path : String) : Bool := lastName path = "." || lastName path = ".."

/-- Remove files, and directories if asked for. -/
def rm : Program := withOptions "rm" 1
    (flags [["f", "force"], ["i"], ["I"], ["r", "R", "recursive"], ["d", "dir"], ["v", "verbose"],
      ["one-file-system"], ["no-preserve-root"]] ++ optionallyValued [["interactive"], ["preserve-root"]])
    fun st g => do
  let how : Removal :=
    { recursive := g.has "r", directories := g.has "d", force := g.has "f"
      asks := g.last? ["f", "i", "I"] = some "i", tells := g.has "v" }
  if g.operands.isEmpty then
    if how.force then return 0 else return ← missingOperand st "rm"
  let mut complete := true
  for n in g.operands do
    let s ← get
    let shown := quotedName n
    match s.files.stat s.here n with
    | .error e =>
      unless how.force && (e = .notFound || e = .notDirectory) do
        emitText st.err s!"rm: cannot remove {shown}: {e.description}\n"
        complete := false
    | .ok .directory =>
      if !how.recursive && !how.directories then
        emitText st.err s!"rm: cannot remove {shown}: Is a directory\n"
        complete := false
      else if endsInDots n then
        emitText st.err s!"rm: refusing to remove '.' or '..' directory: skipping {shown}\n"
        complete := false
      else if s.files.locate s.here n matches .ok [] then
        emitText st.err (s!"rm: it is dangerous to operate recursively on {shown}\n"
          ++ "rm: use --no-preserve-root to override this failsafe\n")
        complete := false
      else unless ← removeBelow st how (depthOf s.files + 1) n do complete := false
    | .ok (.file _) => unless ← removeBelow st how 1 n do complete := false
  return statusOf complete

/-! ### Empty directories -/

/-- A path and those of the directories it lies in, as they are written. -/
private def withParents : (fuel : Nat) → String → List String
  | 0, path => [path]
  | fuel + 1, path =>
    let trimmed := path.toList.reverse.dropWhile (· = '/')
    let before := ((trimmed.dropWhile (· ≠ '/')).dropWhile (· = '/')).reverse
    if before.isEmpty then [path] else path :: withParents fuel (String.ofList before)

/-- Remove one empty directory after the other; gives whether all could be removed. -/
private def removeEmpty (st : Streams) (g : Given) : List String → Acting Bool
  | [] => return true
  | path :: rest => do
    let s ← get
    let shown := quotedName path
    if g.has "v" then emitText st.out s!"rmdir: removing directory, {shown}\n"
    let cause : Option String := match s.files.list s.here path, s.files.locate s.here path with
      | .error e, _ | _, .error e => some e.description
      | .ok entries, .ok _ =>
        if lastName path = "." then some "Invalid argument"
        else if entries.isEmpty then none else some "Directory not empty"
    match cause, s.files.locate s.here path with
    | none, .ok place =>
      change (.remove place)
      removeEmpty st g rest
    | cause, _ =>
      if g.has "ignore-fail-on-non-empty" && cause = some "Directory not empty" then return true
      emitText st.err (s!"rmdir: failed to remove {shown}: " ++ cause.getD "" ++ "\n")
      return false

/-- Remove empty directories. -/
def rmdir : Program := withOptions "rmdir" 1
    (flags [["p", "parents"], ["v", "verbose"], ["ignore-fail-on-non-empty"]]) fun st g => do
  if g.operands.isEmpty then return ← missingOperand st "rmdir"
  let mut complete := true
  for n in g.operands do
    unless ← removeEmpty st g (if g.has "p" then withParents n.length n else [n]) do complete := false
  return statusOf complete

end StepFlow.Shell

import StepFlow.Shell.Programs.Options
import StepFlow.Shell.Programs.Walk

/-!
# Making files and directories

Programs that make directories and files, change the size of files, and say which files may be carried
out as programs. Of the permissions of files only that one is kept; all others are the usual ones.

## Main definitions

* `mkdir`, `touch`, `truncate`
* `Permissions`, `chmod`
-/

namespace StepFlow.Shell

/-! ### Permissions -/

/-- The permissions of a file: nine of them, as bits of a number, for its owner, its group and all
others. -/
abbrev Permissions := Nat

private def bit (n i : Nat) : Bool := n.testBit i

/-- The permissions that something in the tree has. -/
def permissionsOf (s : Session) (place : Place) : Permissions :=
  match s.files.get? place with
  | some .directory => 493
  | _ => if s.runnable.contains place then 493 else 420

/-- The permissions in letters. -/
def permissionLetters (p : Permissions) : String :=
  String.ofList ((List.range 9).map fun i =>
    if bit p (8 - i) then (['r', 'w', 'x'][i % 3]?).getD '-' else '-')

/-- The permissions in octal digits. -/
private def permissionDigits (p : Permissions) : String :=
  String.ofList ((Nat.toDigits 8 (p + 4096)).drop 1)

/-- The bits of those whom a letter stands for. -/
private def bitsOfWhom : Char → Nat
  | 'u' => 448
  | 'g' => 56
  | 'o' => 7
  | _ => 511

/-- The bits of what a letter permits. -/
private def bitsOfWhat (isDirectory : Bool) (p : Permissions) : Char → Option Nat
  | 'r' => some 292
  | 'w' => some 146
  | 'x' => some 73
  | 'X' => some (if isDirectory || p &&& 73 ≠ 0 then 73 else 0)
  | 's' | 't' => some 0
  | 'u' => some ((p >>> 6 &&& 7) * 73)
  | 'g' => some ((p >>> 3 &&& 7) * 73)
  | 'o' => some ((p &&& 7) * 73)
  | _ => none

/-- Permissions after the changes that letters describe, for those in `whom`; the changes begin with a
sign. -/
private def changed (isDirectory : Bool) (whom : Nat) : (fuel : Nat) → Permissions → List Char →
    Option Permissions
  | 0, p, _ | _, p, [] => some p
  | fuel + 1, p, sign :: rest =>
    if !(['+', '-', '='].contains sign) then none
    else do
      let letters := rest.takeWhile fun c => !(['+', '-', '='].contains c)
      let bits := (← letters.mapM (bitsOfWhat isDirectory p)).foldl (· ||| ·) 0 &&& whom
      let kept := p &&& (511 - bits)
      let p := match sign with
        | '+' => p ||| bits
        | '-' => kept
        | _ => (p &&& (511 - whom)) ||| bits
      changed isDirectory whom fuel p (rest.drop letters.length)

/-- The permissions that a mode gives, which is octal or describes changes. -/
def permissionsBy (mode : String) (isDirectory : Bool) (p : Permissions) : Option Permissions :=
  let cs := mode.toList
  if !cs.isEmpty && cs.all fun c => '0' ≤ c && c ≤ '7' then
    let n := digitsValue 8 (cs.filterMap asciiDigit?)
    if n < 4096 then some (n % 512) else none
  else
    (cs.splitOn ',').foldl (fun (found : Option Permissions) part => do
      let p ← found
      let whom := part.takeWhile "ugoa".toList.contains
      let bits := if whom.isEmpty then 511 else (whom.map bitsOfWhom).foldl (· ||| ·) 0
      let rest := part.drop whom.length
      if rest.isEmpty then none else changed isDirectory bits (part.length + 1) p rest) (some p)

/-- An argument that looks like an option and is a mode. -/
private def isModeText (a : String) : Bool :=
  match a.toList with
  | '-' :: c :: _ => "rwxXstugoa,+=01234567".toList.contains c
  | _ => false

/-- Give one file permissions; gives a line that tells what was done. -/
private def permit (mode name : String) : Acting (Except String (Bool × String)) := do
  let s ← get
  let shown := quotedName name
  match s.files.stat s.here name, s.files.locate s.here name with
  | .ok _, .ok place =>
    let old := permissionsOf s place
    match permissionsBy mode (s.files.get? place = some .directory) old with
    | none => return .error ""
    | some new =>
      let others := s.runnable.filter (· ≠ place)
      set { s with runnable := if new &&& 73 ≠ 0 then place :: others else others }
      let text (p : Permissions) : String :=
        let digits := permissionDigits p
        let letters := permissionLetters p
        s!"{digits} ({letters})"
      let before := text old
      let after := text new
      if old = new then return .ok (false, s!"mode of {shown} retained as {after}\n")
      else return .ok (true, s!"mode of {shown} changed from {before} to {after}\n")
  | .error e, _ | _, .error e => return .error s!"cannot access {shown}: {e.description}"

/-- Say which files may be carried out as programs. -/
def chmod : Program := fun st args => do
  let modeAt := args.findIdx? isModeText
  let (given, mode) := match modeAt with
    | some i => (args.eraseIdx i, args[i]?)
    | none => (args, none)
  let known := flags [["R", "recursive"], ["v", "verbose"], ["c", "changes"], ["f", "silent", "quiet"],
    ["preserve-root"], ["no-preserve-root"]] ++ valued [["reference"]]
  match (OptionSet.mk known false).read given with
  | .error complaint => misused st "chmod" complaint 1
  | .ok g =>
    let (mode, names) := match mode with
      | some m => (some m, g.operands)
      | none => (g.operands.head?, g.operands.drop 1)
    match mode, names with
    | none, _ => missingOperand st "chmod"
    | some mode, [] =>
      let shown := quotedPhrase mode
      misused st "chmod" s!"missing operand after {shown}" 1
    | some mode, names =>
      if (permissionsBy mode false 0).isNone then
        let shown := quotedPhrase mode
        return ← misused st "chmod" s!"invalid mode: {shown}" 1
      let s ← get
      let all := if g.has "R" then
          names.flatMap fun n =>
            (walk s.files s.here (fun _ => true) (depthOf s.files + 1) 0 n).map (·.path)
        else names
      let mut complete := true
      for n in all do
        match ← permit mode n with
        | .ok (isChange, told) =>
          if g.has "v" || (g.has "c" && isChange) then emitText st.out told
        | .error complaint =>
          unless g.has "f" do emitText st.err s!"chmod: {complaint}\n"
          complete := false
      return statusOf complete

/-! ### Directories -/

/-- The beginnings of a path that end before a slash, and the path itself. -/
private def pathBeginnings (path : String) : List String :=
  let cs := (path.toList.reverse.dropWhile (· = '/')).reverse
  let ends := (List.range cs.length).filter fun i =>
    cs[i]? = some '/' && i ≠ 0 && cs[i - 1]? ≠ some '/'
  (ends.map fun i => String.ofList (cs.take i)) ++ [String.ofList cs]

/-- Make a directory with all that it lies in; gives the path that could not be made. -/
private def makeParents (tell : String → Acting Unit) : List String →
    Acting (Option (String × FileCause))
  | [] => return none
  | path :: rest => do
    let s ← get
    if s.files.isDirectory s.here path then makeParents tell rest
    else match s.files.makable s.here path with
      | .ok place =>
        change (.makeDirectory place)
        tell path
        makeParents tell rest
      | .error .alreadyExists =>
        return some (path, if rest.isEmpty then .alreadyExists else .notDirectory)
      | .error e => return some (path, e)

def mkdir : Program := withOptions "mkdir" 1
    (flags [["p", "parents"], ["v", "verbose"], ["Z"]] ++ valued [["m", "mode"]]) fun st g => do
  if g.operands.isEmpty then return ← missingOperand st "mkdir"
  if let some mode := g.value? "m" then
    if (permissionsBy mode true 0).isNone then
      let shown := quotedPhrase mode
      emitText st.err s!"mkdir: invalid mode {shown}\n"
      return 1
  let tell (path : String) : Acting Unit := do
    let shown := quotedName path
    if g.has "v" then emitText st.out s!"mkdir: created directory {shown}\n"
  let mut complete := true
  for n in g.operands do
    let refused ←
      if g.has "p" && n ≠ "" then makeParents tell (pathBeginnings n)
      else do
        let s ← get
        match s.files.makable s.here n with
        | .ok place =>
          change (.makeDirectory place)
          tell n
          pure none
        | .error e => pure (some (n, e))
    if let some (path, e) := refused then
      let shown := quotedName path
      emitText st.err s!"mkdir: cannot create directory {shown}: {e.description}\n"
      complete := false
  return statusOf complete

/-! ### Files -/

/-- Make files that do not exist. Times are not kept. -/
def touch : Program := withOptions "touch" 1
    (flags [["a"], ["c", "no-create"], ["f"], ["m"], ["h", "no-dereference"]]
      ++ valued [["d", "date"], ["r", "reference"], ["t"], ["time"]]) fun st g => do
  if g.operands.isEmpty then
    return ← misused st "touch" "missing file operand" 1
  let mut complete := true
  for n in g.operands do
    let s ← get
    unless s.files.exists? s.here n || g.has "c" do
      let shown := quotedName n
      if n.toList.getLast? = some '/' then
        emitText st.err s!"touch: setting times of {shown}: No such file or directory\n"
        complete := false
      else match s.files.writable s.here n with
        | .ok place => change (.write place [])
        | .error e =>
          emitText st.err s!"touch: cannot touch {shown}: {e.description}\n"
          complete := false
  return statusOf complete

/-- A size, or the difference to the size that a file has. -/
private def newSize? (old : Nat) (s : String) : Option Nat :=
  match s.toList with
  | '+' :: cs => (amount? (String.ofList cs)).map (old + ·)
  | '-' :: cs => (amount? (String.ofList cs)).map (old - ·)
  | '<' :: cs => (amount? (String.ofList cs)).map (min old)
  | '>' :: cs => (amount? (String.ofList cs)).map (max old)
  | _ => amount? s

/-- Cut files or fill them up with zeros. -/
def truncate : Program := withOptions "truncate" 1
    (flags [["c", "no-create"], ["o", "io-blocks"]] ++ valued [["s", "size"], ["r", "reference"]])
    fun st g => do
  match g.value? "s", g.operands with
  | none, _ => misused st "truncate" "you must specify either '--size' or '--reference'" 1
  | some _, [] => misused st "truncate" "missing file operand" 1
  | some size, names =>
    if (newSize? 0 size).isNone then
      let shown := quotedPhrase size
      emitText st.err s!"truncate: Invalid number: {shown}\n"
      return 1
    let mut complete := true
    for n in names do
      let s ← get
      let old := ((s.files.read s.here n).toOption).getD []
      unless g.has "c" && !s.files.exists? s.here n do
        match s.files.writable s.here n with
        | .ok place =>
          let count := (newSize? old.length size).getD 0
          change (.write place (old.take count ++ List.replicate (count - old.length) 0))
        | .error e =>
          let shown := quotedName n
          emitText st.err s!"truncate: cannot open {shown} for writing: {e.description}\n"
          complete := false
    return statusOf complete

end StepFlow.Shell

import StepFlow.Shell.Programs.Edit.Cycle
import StepFlow.Shell.Programs.Edit.Read
import StepFlow.Shell.Programs.Options

/-!
# The stream editor

A script comes from options, from files, or from the first operand. Its lines are those of the input
or of all files together; files that are edited in place are texts of their own and get the output.

## Main definitions

* `sed`
-/

namespace StepFlow.Shell

private def sedOptions : List ProgramOption :=
  flags [["n", "quiet", "silent"], ["E", "r", "regexp-extended"], ["s", "separate"],
    ["u", "unbuffered"], ["z", "null-data"], ["posix"], ["debug"], ["sandbox"], ["follow-symlinks"]]
  ++ valued [["e", "expression"], ["f", "file"], ["l", "line-length"]]
  ++ optionallyValued [["i", "in-place"]]

/-- A text that a script is put together from. -/
private structure ScriptPart where
  text : List Char
  /-- The file that it comes from. -/
  file : Option String

/-- The parts of a script; a text whose last line goes on continues with the next part. -/
private def scriptOf : List ScriptPart → List ScriptPart
  | a :: b :: rest =>
    if (a.text.reverse.takeWhile (· = '\\')).length % 2 = 1 then
      match scriptOf (b :: rest) with
      | next :: more => { a with text := a.text ++ '\n' :: next.text } :: more
      | [] => [a]
    else a :: scriptOf (b :: rest)
  | parts => parts

/-- Where a mistake in a script is. -/
private def position (part : ScriptPart) (expression : Nat) (rest : List Char) : String :=
  let read := part.text.take (part.text.length - rest.length)
  match part.file with
  | none => s!"-e expression #{expression}, char {read.length}"
  | some name =>
    let line := read.count '\n' + 1
    s!"file {name} line {line}"

/-- The commands of a script, or what is wrong with it. -/
private def commandsOf (form : EditForm) (depth expression : Nat) :
    List ScriptPart → Except String (List EditCommand)
  | [] =>
    if depth = 0 then return [] else throw "-e expression #1, char 0: unmatched \x60\x7b'"
  | part :: rest =>
    match EditCommand.readAll form depth part.text with
    | .error fault =>
      let place := position part expression fault.rest
      throw s!"{place}: {fault.message}"
    | .ok (commands, depth) => do
      let next := if part.file.isNone then expression + 1 else expression
      return commands ++ (← commandsOf form depth next rest)

/-- The lines of a text. -/
private def spacesOf (mark : UInt8) (bs : List UInt8) : List EditSpace :=
  (fullPieces mark bs).map fun l =>
    if l.getLast? = some mark then ⟨charsOf l.dropLast, true⟩ else ⟨charsOf l, false⟩

/-- The name under which a file is kept before it is edited. -/
private def backupName (suffix name : String) : String :=
  let base := name.toList.reverse.takeWhile (· ≠ '/') |>.reverse
  let directory := name.toList.take (name.toList.length - base.length)
  if suffix.toList.contains '*' then
    let new := suffix.toList.flatMap fun c => if c = '*' then base else [c]
    String.ofList (if new.contains '/' then new else directory ++ new)
  else name ++ suffix

/-- Write a whole file; gives whether that is possible. -/
private def writeWhole (st : Streams) (name : String) (bytes : List UInt8) : Acting Bool := do
  match ← fileSink name false with
  | .ok sink =>
    emit sink bytes
    return true
  | .error e =>
    emitText st.err s!"sed: couldn't open file {name}: {e.description}\n"
    return false

/-- The files that commands write to. -/
private def targets (commands : List EditCommand) : List String :=
  (commands.filterMap fun c =>
    match c.action with
    | .write name | .writeFirst name => some name
    | .substitute r => r.target
    | _ => none).eraseDups

private def errorName : String := "/dev/stderr"

/-- What the files of a run came to: their lines, and the status that unreadable ones lead to. -/
private structure EditInput where
  files : List (String × List EditSpace) := []
  status : Nat := 0

/-- Read the files of a run. A directory ends them. -/
private def editInput (st : Streams) (inPlace : Bool) (mark : UInt8) (found : EditInput) :
    List String → Acting EditInput
  | [] => return found
  | name :: rest => do
    match ← if inPlace then bytesAt name else fileOrInput name with
    | .ok bs =>
      editInput st inPlace mark { found with files := found.files ++ [(name, spacesOf mark bs)] } rest
    | .error .isDirectory =>
      if inPlace then
        emitText st.err s!"sed: couldn't edit {name}: not a regular file\n"
        editInput st inPlace mark { found with status := 4 } rest
      else
        emitText st.err s!"sed: read error on {name}: Is a directory\n"
        return { found with status := 4 }
    | .error e =>
      emitText st.err s!"sed: can't read {name}: {e.description}\n"
      editInput st inPlace mark { found with status := max found.status 2 } rest

/-- Carry out a script. -/
private def editFiles (st : Streams) (g : Given) (commands : List EditCommand) (quiet : Bool)
    (names : List String) : Acting Nat := do
  for name in targets commands do
    unless name = EditPlan.outputName || name = errorName do
      unless ← writeWhole st name [] do return 4
  let feed := (← get).feed
  let inPlace := g.has "i"
  let mark := lineMark (g.has "z")
  let input ← editInput st inPlace mark {} (if names.isEmpty then ["-"] else names)
  let s ← get
  let plan : EditPlan :=
    { commands, quiet, inPlace, separate := inPlace || g.has "s"
      width := ((g.value? "l").bind natOf?).getD 70, mark := Char.ofNat mark.toNat
      textOf? := fun name => (s.files.read s.here name).toOption.map charsOf }
  let (ending, after) := plan.run input.files
  if ending matches .error .endless then throw .timedOut
  emit st.out (bytesOfChars after.output.text)
  for (name, o) in after.written do
    if name = errorName then emit st.err (bytesOfChars o.text)
    else unless name = EditPlan.outputName do let _ ← writeWhole st name (bytesOfChars o.text)
  for (name, text) in after.edited do
    match g.value? "i", s.files.read s.here name with
    | some suffix, .ok old => let _ ← writeWhole st (backupName suffix name) old
    | _, _ => pure ()
    let _ ← writeWhole st name (bytesOfChars text)
  match ending with
  | .error (.quit status) =>
    if after.source = "-" && feed.size.isSome && names.all (· = "-") then
      keepInput (bytesOfChars (after.lines.flatMap fun l =>
        l.text ++ (if l.ended then [plan.mark] else [])))
    return if input.status = 0 then status else input.status
  | .error .noExpression =>
    emitText st.err "sed: -e expression #1, char 0: no previous regular expression\n"
    return 1
  | _ => return input.status

/-- The parts of the script that options give, or the first operand, and the files. -/
private def scriptParts (st : Streams) (g : Given) : Acting (Except Nat (List ScriptPart × List String)) := do
  let mut found : List ScriptPart := []
  for (key, value) in g.options do
    let value := value.getD ""
    if key = "e" then found := found ++ [⟨argumentChars value, none⟩]
    else if key = "f" then
      match ← fileOrInput value with
      | .ok bs => found := found ++ [⟨charsOf bs, some value⟩]
      | .error .isDirectory => found := found ++ [⟨[], some value⟩]
      | .error e =>
        emitText st.err s!"sed: couldn't open file {value}: {e.description}\n"
        return .error 4
  match found, g.operands with
  | [], script :: names => return .ok ([⟨argumentChars script, none⟩], names)
  | [], [] =>
    emitText st.err
      "Usage: sed [OPTION]... \x7bscript-only-if-no-other-script\x7d [input-file]...\n\n"
    return .error 1
  | parts, names => return .ok (parts, names)

/-- The first line of a script asks for quiet. -/
private def asksForQuiet (parts : List ScriptPart) : Bool :=
  match parts.head?.map (·.text) with
  | some ('#' :: 'n' :: _) => true
  | _ => false

/-- Edit lines by a script. -/
def sed : Program := withOptions "sed" 1 sedOptions fun st g => do
  match ← scriptParts st g with
  | .error status => return status
  | .ok (parts, names) =>
    match commandsOf { extended := g.has "E" } 0 1 (scriptOf parts) with
    | .error message =>
      emitText st.err s!"sed: {message}\n"
      return 1
    | .ok commands =>
      match EditPlan.missingLabel? commands with
      | some label =>
        emitText st.err ("sed: can't find label for jump to \x60" ++ label ++ "'\n")
        return 4
      | none => editFiles st g commands (g.has "n" || asksForQuiet parts) names

end StepFlow.Shell

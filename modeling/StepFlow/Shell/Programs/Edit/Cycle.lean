import StepFlow.Shell.Programs.Edit.Basic

/-!
# Carrying out edit scripts

Each line of the input goes through the commands of a script and is then written to the output. There
are two spaces: the line that is worked on, and one that holds text from one line to later ones. What
is to stand behind a line waits in a queue until the next line is read.

The end of a line is kept apart from it, so a last line without an end has none in the output either,
unless something follows it there.

## Main definitions

* `EditPlan` — a script and how it is carried out
* `EditState` — the state that commands work on
* `EditPlan.run` — a whole run
-/

namespace StepFlow.Shell

/-- A text that is worked on, and whether its end is marked. -/
structure EditSpace where
  text : List Char := []
  ended : Bool := true
  deriving DecidableEq, Repr, Inhabited

/-- What is written to a file. -/
structure EditOutput where
  /-- The pieces that were written, the last one first. -/
  pieces : List (List Char) := []
  /-- The mark behind the last line is still to be written, if anything follows. -/
  lacksEnd : Bool := false
  deriving DecidableEq, Repr, Inhabited

namespace EditOutput

/-- All that was written. -/
def text (o : EditOutput) : List Char := o.pieces.reverse.flatten

/-- Write the mark that is still to be written. -/
def completed (mark : Char) (o : EditOutput) : EditOutput :=
  if o.lacksEnd then ⟨[mark] :: o.pieces, false⟩ else o

def add (mark : Char) (text : List Char) (o : EditOutput) : EditOutput :=
  let o := o.completed mark
  { o with pieces := text :: o.pieces }

def addSpace (mark : Char) (space : EditSpace) (o : EditOutput) : EditOutput :=
  let o := o.completed mark
  if space.ended then { o with pieces := (space.text ++ [mark]) :: o.pieces }
  else ⟨space.text :: o.pieces, true⟩

end EditOutput

/-- How far a range has come. -/
inductive EditRange where
  | waiting
  /-- Within the range, which ends with a line of a number if one is given. -/
  | active (stop : Option Nat)
  /-- The range has ended and does not begin again. -/
  | over
  deriving DecidableEq, Repr, Inhabited

/-- What is to stand behind a line. -/
inductive EditAddition where
  | text (chars : List Char)
  | file (name : String)
  deriving DecidableEq, Repr, Inhabited

/-- A script and how it is carried out. -/
structure EditPlan where
  commands : List EditCommand
  /-- Lines are written only where commands say so. -/
  quiet : Bool := false
  /-- Each file is a text of its own. -/
  separate : Bool := false
  /-- Each file is replaced by what becomes of it. -/
  inPlace : Bool := false
  width : Nat := 70
  mark : Char := '\n'
  /-- The text of a file, if it can be read. -/
  textOf? : String → Option (List Char)

/-- The state that commands work on. -/
structure EditState where
  /-- The name of the file that the line comes from. -/
  source : String := "-"
  /-- The further lines of that file. -/
  lines : List EditSpace := []
  /-- The files to come. -/
  later : List (String × List EditSpace)
  /-- A file has been begun. -/
  hasBegun : Bool := false
  number : Nat := 0
  space : EditSpace := {}
  held : EditSpace := {}
  /-- A replacement has been made since a line was read. -/
  replaced : Bool := false
  queue : List EditAddition := []
  /-- The ranges by the numbers of their commands. -/
  ranges : List (Nat × EditRange) := []
  /-- The expression that was used last. -/
  lastUsed : Option Regex := none
  output : EditOutput := {}
  /-- What was written to files by their names. -/
  written : List (String × EditOutput) := []
  /-- The new texts of files. -/
  edited : List (String × List Char) := []
  /-- The lines that are left of files that are read line by line. -/
  unread : List (String × List (List Char)) := []
  deriving Inhabited

/-- How a run ends before the end of its input. -/
inductive EditEnding where
  | quit (status : Nat)
  /-- The last expression is meant where none has been used. -/
  | noExpression
  | endless
  deriving DecidableEq, Repr, Inhabited

abbrev Editing := ExceptT EditEnding (StateM EditState)

/-- How the commands end for a line. -/
inductive EditCycle where
  /-- The line is written. -/
  | complete
  /-- The line is not written. -/
  | dropped
  /-- The commands begin again with what is left of the line. -/
  | again
  deriving DecidableEq, Repr, Inhabited

/-- What follows a command. -/
inductive EditStep where
  | next
  | jump (index : Nat)
  | stop (cycle : EditCycle)
  deriving DecidableEq, Repr, Inhabited

namespace EditPlan

/-! ### Output -/

/-- The file names that stand for the two outputs. -/
def outputName : String := "/dev/stdout"

private def put (f : EditOutput → EditOutput) : Editing Unit :=
  modify fun s => { s with output := f s.output }

/-- Write to a file. What is written to the output by name has an end of its own to be written. -/
private def putInto (name : String) (f : EditOutput → EditOutput) : Editing Unit :=
  modify fun s =>
    let own := (s.written.lookup name).getD {}
    let others := s.written.filter (·.1 ≠ name)
    if name = outputName then
      let new := f { own with pieces := s.output.pieces }
      { s with
        output := { s.output with pieces := new.pieces }
        written := others ++ [(name, { new with pieces := [] })] }
    else { s with written := others ++ [(name, f own)] }

/-- Write the line that is worked on. -/
private def show' (plan : EditPlan) : Editing Unit := do
  let s ← get
  put (·.addSpace plan.mark s.space)

/-- The text of a file, with what was written to it. -/
private def fileText (plan : EditPlan) (name : String) : Editing (List Char) := do
  match (← get).written.lookup name with
  | some o => return o.text
  | none => return (plan.textOf? name).getD []

/-- Write what is to stand behind the line. -/
private def writeQueue (plan : EditPlan) : Editing Unit := do
  let queue := (← get).queue
  modify fun s => { s with queue := [] }
  queue.forM fun
    | .text chars => put (·.add plan.mark chars)
    | .file name => do
      let text ← fileText plan name
      put (·.add plan.mark text)

/-! ### Input -/

/-- Keep what has become of a file that is edited in place. -/
private def concludeFile (plan : EditPlan) : Editing Unit :=
  modify fun s =>
    if plan.inPlace && s.hasBegun then
      { s with edited := s.edited ++ [(s.source, s.output.text)], output := {}, hasBegun := false }
    else s

/-- Begin the next file that has lines. -/
private def nextFile (plan : EditPlan) : (later : List (String × List EditSpace)) → Editing Bool
  | [] => do
    concludeFile plan
    modify fun s => { s with later := [] }
    return false
  | (name, lines) :: later => do
    concludeFile plan
    if plan.separate then
      put (·.completed plan.mark)
      modify fun s => { s with number := 0, held := {}, ranges := [] }
    modify fun s => { s with source := name, lines, later, hasBegun := true }
    if lines.isEmpty then nextFile plan later else return true

/-- Read the next line; gives whether there is one. -/
private def readLine (plan : EditPlan) (appends : Bool) : Editing Bool := do
  writeQueue plan
  modify fun s => { s with replaced := false }
  let found ← if (← get).lines.isEmpty then nextFile plan (← get).later else pure true
  if !found then return false
  modify fun s =>
    match s.lines with
    | [] => s
    | l :: lines =>
      let text := if appends then s.space.text ++ plan.mark :: l.text else l.text
      { s with lines, number := s.number + 1, space := ⟨text, l.ended⟩ }
  return true

/-- The line is the last one. -/
private def isLast (plan : EditPlan) (s : EditState) : Bool :=
  s.lines.isEmpty && (plan.separate || s.later.all (·.2.isEmpty))

/-! ### Addresses -/

/-- The expression that is meant, which becomes the last one used. -/
private def meant (r : Option Regex) : Editing Regex := do
  match r, (← get).lastUsed with
  | some r, _ =>
    modify fun s => { s with lastUsed := some r }
    return r
  | none, some r => return r
  | none, none => throw .noExpression

/-- The line is one that an address names. -/
private def isNamed (plan : EditPlan) (a : EditAddress) : Editing Bool := do
  let s ← get
  match a with
  | .line n => return s.number = n
  | .last => return plan.isLast s
  | .every first step => return first ≤ s.number && (s.number - first) % step = 0
  | .holding r =>
    let r ← meant r
    return (Regex.find? [r] ⟨[], s.space.text, []⟩).isSome
  | .further _ | .multiple _ => return false

private def setRange (index : Nat) (range : EditRange) : Editing Unit :=
  modify fun s => { s with ranges := (index, range) :: s.ranges.filter (·.1 ≠ index) }

/-- The number of the last line of a range that begins with a line, if the number is known. -/
private def stopOf (number : Nat) : EditAddress → Option Nat
  | .line n => some n
  | .further n => some (number + n)
  | .multiple n => some (if n = 0 then number else number + n - number % n)
  | _ => none

/-- The line is in a range. A range that ends before it begins is one line. -/
private def isInRange (plan : EditPlan) (index : Nat) (a b : EditAddress) : Editing Bool := do
  let s ← get
  let n := s.number
  let finished : EditRange := if a matches .line _ then .over else .waiting
  let start : EditRange := if a = .line 0 then .active none else .waiting
  match (s.ranges.lookup index).getD start with
  | .over => return false
  | .active (some stop) =>
    if stop ≤ n then setRange index finished
    if n ≤ stop then return true
    if b matches .line _ then return false
    isNamed plan a
  | .active none =>
    if ← isNamed plan b then setRange index finished
    return true
  | .waiting =>
    let begins ← match a with
      | .line first => pure (first ≤ n : Bool)
      | a => isNamed plan a
    if !begins then return false
    match stopOf n b with
    | none =>
      setRange index (.active none)
      return true
    | some stop =>
      setRange index (if stop ≤ n then finished else .active (some stop))
      return a = .line n || n ≤ stop || !(a matches .line _)

/-- A command is for the line. -/
private def selects (plan : EditPlan) (index : Nat) (c : EditCommand) : Editing Bool := do
  let named ← match c.first, c.last with
    | none, _ => pure true
    | some a, none => isNamed plan a
    | some a, some b => isInRange plan index a b
  return named != c.negated

/-! ### Replacements -/

/-- How letters are written: all that follow, and the next one. -/
private structure LetterCase where
  all : Option Bool := none
  next : Option Bool := none

private def inCase (upper : Option Bool) (c : Char) : Char :=
  match upper with
  | some true => c.toUpper
  | some false => c.toLower
  | none => c

private def cased (how : LetterCase) : List Char → List Char × LetterCase
  | [] => ([], how)
  | c :: cs =>
    let first := match how.next with
      | some upper => inCase (some upper) c
      | none => inCase how.all c
    (first :: cs.map (inCase how.all), { how with next := none })

/-- What a match is replaced by. -/
private def replacementOf (parts : List EditPart) (m : Regex.Match) : List Char :=
  (parts.foldl (fun ((found, how) : List Char × LetterCase) part =>
    let add (cs : List Char) : List Char × LetterCase :=
      let (cs, how) := cased how cs
      (found ++ cs, how)
    match part with
    | .text cs => add cs
    | .group 0 => add m.text
    | .group n => add ((m.stop.group? n).getD [])
    | .case 'U' => (found, { how with all := some true })
    | .case 'L' => (found, { how with all := some false })
    | .case 'E' => (found, { how with all := none })
    | .case 'u' => (found, { how with next := some true })
    | .case _ => (found, { how with next := some false })) ([], {})).1

/-- A text with some of its matches replaced. -/
private def replacedIn (r : EditReplacement) (matches' : List Regex.Match) (text : List Char) :
    List Char :=
  let chosen := (matches'.zipIdx 1).filter fun (_, i) => i = r.first || r.all && r.first ≤ i
  let (found, place) := chosen.foldl (fun ((found, place) : List Char × Nat) (m, _) =>
    let start := m.start.before.length
    (found ++ (text.take start).drop place ++ replacementOf r.parts m, start + m.text.length)) ([], 0)
  found ++ text.drop place

private def substitute (plan : EditPlan) (r : EditReplacement) : Editing Unit := do
  let pattern ← meant r.pattern
  let text := (← get).space.text
  let found := Regex.matchesIn [pattern] text
  if found.length < r.first then return
  modify fun s =>
    { s with replaced := true, space := { s.space with text := replacedIn r found text } }
  if r.prints then show' plan
  match r.target with
  | none => return
  | some name =>
    let s ← get
    putInto name (·.addSpace plan.mark s.space)

/-! ### Single commands -/

/-- A character as it is listed. -/
private def listedChar (c : Char) : List Char :=
  match c with
  | '\\' => ['\\', '\\']
  | '\x07' => ['\\', 'a']
  | '\x08' => ['\\', 'b']
  | '\x0c' => ['\\', 'f']
  | '\n' => ['\\', 'n']
  | '\x0d' => ['\\', 'r']
  | '\t' => ['\\', 't']
  | '\x0b' => ['\\', 'v']
  | c =>
    if ' ' ≤ c && c ≤ '~' then [c] else '\\' :: (Nat.toDigits 8 (c.toNat + 512)).drop 1

/-- A text as it is listed, in lines of a width; the width zero sets no limit. -/
def listed (width : Nat) (text : List Char) : List Char :=
  let (found, _) := text.foldl (fun ((found, column) : List (List Char) × Nat) c =>
    let shown := listedChar c
    if 0 < width && width < column + shown.length + 1 then (shown :: ['\\', '\n'] :: found, shown.length)
    else (shown :: found, column + shown.length)) (([], 0) : List (List Char) × Nat)
  found.reverse.flatten ++ ['$', '\n']

/-- The next line of a file that is read line by line. -/
private def lineOfFile (plan : EditPlan) (name : String) : Editing (Option (List Char)) := do
  let lines ← match (← get).unread.lookup name with
    | some lines => pure lines
    | none =>
      let text ← fileText plan name
      let parts := (text.splitOn plan.mark).reverse
      let whole := (parts.drop 1).map (· ++ [plan.mark])
      pure ((whole.reverse ++ [parts.headD []]).filter (!·.isEmpty))
  modify fun s => { s with unread := (name, lines.drop 1) :: s.unread.filter (·.1 ≠ name) }
  return lines.head?

/-- The place behind the end of the block that begins at a place. -/
def behindBlock (commands : List EditCommand) (index : Nat) : Nat :=
  index + 1 + inside 0 (commands.drop (index + 1))
where
  /-- The number of commands up to and with the one that closes. -/
  inside : (depth : Nat) → List EditCommand → Nat
    | _, [] => 0
    | depth, c :: rest =>
      match c.action, depth with
      | .opening, depth => inside (depth + 1) rest + 1
      | .closing, 0 => 1
      | .closing, depth + 1 => inside depth rest + 1
      | _, depth => inside depth rest + 1

/-- The place of a label; without a name, the end of the commands. -/
def labelled (commands : List EditCommand) (name : String) : Option Nat :=
  if name = "" then some commands.length
  else commands.findIdx? fun c => c.action = .label name

/-- The first label that is jumped to and does not exist. -/
def missingLabel? (commands : List EditCommand) : Option String :=
  (commands.filterMap fun c =>
    match c.action with
    | .jump name | .jumpIfReplaced name | .jumpUnlessReplaced name => some name
    | _ => none).find? fun name => (labelled commands name).isNone

private def setText (f : List Char → List Char) : Editing Unit :=
  modify fun s => { s with space := { s.space with text := f s.space.text } }

private def enqueue (a : EditAddition) : Editing EditStep := do
  modify fun s => { s with queue := s.queue ++ [a] }
  return .next

/-- Carry out a command for the line. -/
private def act (plan : EditPlan) (index : Nat) (c : EditCommand) : Editing EditStep := do
  let mark := plan.mark
  let s ← get
  let jumpTo (name : String) : EditStep := .jump ((labelled plan.commands name).getD 0)
  let (first, behind) := s.space.text.span (· ≠ mark)
  match c.action with
  | .opening | .closing | .label _ => return .next
  | .number =>
    put (·.add mark (toString s.number ++ "\n").toList)
    return .next
  | .append text => enqueue (.text text)
  | .readFile name => enqueue (.file name)
  | .readLine name =>
    match ← lineOfFile plan name with
    | some line => enqueue (.text line)
    | none => return .next
  | .insert text =>
    put (·.add mark text)
    return .next
  | .change text =>
    unless (s.ranges.lookup index).any (· matches .active _) do put (·.add mark text)
    return .stop .dropped
  | .jump name => return jumpTo name
  | .jumpIfReplaced name =>
    set { s with replaced := false }
    return if s.replaced then jumpTo name else .next
  | .jumpUnlessReplaced name =>
    set { s with replaced := false }
    return if s.replaced then .next else jumpTo name
  | .delete => return .stop .dropped
  | .deleteFirst =>
    if behind.isEmpty then return .stop .dropped
    setText fun _ => behind.drop 1
    return .stop .again
  | .fileName =>
    put (·.add mark (s.source ++ "\n").toList)
    return .next
  | .takeHold =>
    set { s with space := s.held }
    return .next
  | .addHold =>
    set { s with space := ⟨s.space.text ++ mark :: s.held.text, s.held.ended⟩ }
    return .next
  | .hold =>
    set { s with held := s.space }
    return .next
  | .addToHold =>
    set { s with held := ⟨s.held.text ++ mark :: s.space.text, s.space.ended⟩ }
    return .next
  | .exchange =>
    set { s with space := s.held, held := s.space }
    return .next
  | .list width =>
    put (·.add mark (listed (width.getD plan.width) s.space.text))
    return .next
  | .next =>
    if plan.isLast s then return .stop .complete
    unless plan.quiet do show' plan
    let _ ← readLine plan false
    return .next
  | .addNext =>
    if plan.isLast s then return .stop .complete
    let _ ← readLine plan true
    return .next
  | .print =>
    show' plan
    return .next
  | .printFirst =>
    put (·.addSpace mark ⟨first, true⟩)
    return .next
  | .quit status =>
    unless plan.quiet do show' plan
    writeQueue plan
    throw (.quit status)
  | .quitSilently status => throw (.quit status)
  | .write name =>
    putInto name (·.addSpace mark s.space)
    return .next
  | .writeFirst name =>
    putInto name (·.addSpace mark ⟨first, true⟩)
    return .next
  | .substitute r =>
    substitute plan r
    return .next
  | .exchangeChars source target =>
    let pairs := source.zip target
    setText fun text => text.map fun c => (pairs.lookup c).getD c
    return .next
  | .clear =>
    setText fun _ => []
    return .next

/-- Deal with one command: carry it out if it is for the line. -/
private def step (plan : EditPlan) (index : Nat) : Editing EditStep := do
  match plan.commands[index]? with
  | none => return .stop .complete
  | some c =>
    if ← selects plan index c then act plan index c
    else if c.action = .opening then return .jump (behindBlock plan.commands index)
    else return .next

/-! ### Whole runs -/

/-- The commands from one on, for one line. -/
private def cycle (plan : EditPlan) : (fuel index : Nat) → EditState →
    Except EditEnding EditCycle × EditState
  | 0, _, s => (.error .endless, s)
  | fuel + 1, index, s =>
    match (step plan index).run.run s with
    | (.ok .next, s) => cycle plan fuel (index + 1) s
    | (.ok (.jump i), s) => cycle plan fuel i s
    | (.ok (.stop c), s) => (.ok c, s)
    | (.error e, s) => (.error e, s)

/-- The commands for one line after the other. -/
private def cycles (plan : EditPlan) (steps : Nat) : (fuel : Nat) → (again : Bool) → EditState →
    Except EditEnding Unit × EditState
  | 0, _, s => (.error .endless, s)
  | fuel + 1, again, s =>
    match if again then (.ok true, s) else (readLine plan false).run.run s with
    | (.error e, s) => (.error e, s)
    | (.ok false, s) => (.ok (), s)
    | (.ok true, s) =>
      match cycle plan steps 0 s with
      | (.error e, s) => (.error e, s)
      | (.ok .again, s) => cycles plan steps fuel true s
      | (.ok .dropped, s) => cycles plan steps fuel false s
      | (.ok .complete, s) =>
        if plan.quiet then cycles plan steps fuel false s
        else cycles plan steps fuel false ((show' plan).run.run s).2

/-- A whole run over files. A run that takes far more steps than its input has characters is taken to
be endless. -/
def run (plan : EditPlan) (files : List (String × List EditSpace)) :
    Except EditEnding Unit × EditState :=
  let size := files.foldl (fun n f => f.2.foldl (fun n l => n + l.text.length + 1) n) 1
  let steps := 10000 + size * (plan.commands.length + 1)
  let (ending, s) := cycles plan steps steps false { later := files }
  (ending, ((concludeFile plan).run.run s).2)

end EditPlan

end StepFlow.Shell

import StepFlow.Files.Glob
import StepFlow.Shell.Pattern
import StepFlow.Shell.Programs.Walk

/-!
# Finding files

Each path below some paths is tested by an expression of conditions and actions, joined by `-a`, `-o`,
`!`, commas and parentheses. Paths for which an expression without actions holds are shown.

## Main definitions

* `FindStep`, `FindExpression` — expressions
* `find`
-/

namespace StepFlow.Shell

/-! ### Expressions -/

/-- How a number is compared: more, less, or just as much. -/
private inductive FindCompare where
  | more
  | less
  | equal
  deriving DecidableEq

/-- A condition or an action. -/
private inductive FindStep where
  | name (pattern : NamePattern) (ignoresCase : Bool)
  | path (pattern : NamePattern) (ignoresCase : Bool)
  | regex (r : Regex)
  | type (letters : List Char)
  | size (how : FindCompare) (count unit : Nat)
  | permissions (digits : String)
  | empty
  | runnable
  | sameAs (place : Option Place)
  | always (value : Bool)
  | print (ending : String)
  | format (text : List Char)
  | delete
  | prune
  | quit
  | run (words : List String)
  /-- Once for all paths, at the end. -/
  | runAll (index : Nat)

private inductive FindExpression where
  | step (s : FindStep)
  | not (e : FindExpression)
  | and (a b : FindExpression)
  | or (a b : FindExpression)
  | then' (a b : FindExpression)

/-- The step shows or does something. -/
private def FindStep.isAction : FindStep → Bool
  | print _ | format _ | delete | run _ | runAll _ => true
  | _ => false

private def FindExpression.steps : FindExpression → List FindStep
  | step s => [s]
  | not e => e.steps
  | and a b | or a b | then' a b => a.steps ++ b.steps

/-! ### Reading expressions -/

/-- The state of reading: the words left, the depths, and the commands to be carried out at the end. -/
private structure FindReading where
  rest : List String
  most : Option Nat := none
  least : Nat := 0
  depthFirst : Bool := false
  commands : List (List String) := []
  extended : Bool := false

private abbrev FindReader := StateT FindReading (Except String)

private def failWith {α : Type} (message : String) : FindReader α := throw message

/-- The argument of a condition or action. -/
private def argumentOf (name : String) : FindReader String := do
  let s ← get
  match s.rest with
  | a :: rest =>
    set { s with rest }
    return a
  | [] => failWith ("missing argument to \x60" ++ name ++ "'")

private def patternArgument (ignoresCase : Bool) (name : String) : FindReader NamePattern := do
  let a ← argumentOf name
  let a := if ignoresCase then a.toLower else a
  return patternOf (a.toList.map fun c => (c, false))

private def depthArgument (name : String) : FindReader Nat := do
  let a ← argumentOf name
  match natOf? a with
  | some n => return n
  | none =>
    let shown := quotedPhrase a
    failWith (s!"Expected a positive decimal integer argument to {name}, but got " ++ shown)

/-- Expressions in the form in which plus signs and question marks are operators. -/
private def withPlainOperators : List Char → List Char
  | '\\' :: c :: rest =>
    if c = '+' || c = '?' then c :: withPlainOperators rest else '\\' :: c :: withPlainOperators rest
  | c :: rest =>
    if c = '+' || c = '?' then '\\' :: c :: withPlainOperators rest else c :: withPlainOperators rest
  | [] => []

private def regexArgument (ignoresCase : Bool) (name : String) : FindReader FindStep := do
  let a := argumentChars (← argumentOf name)
  let extended := (← get).extended
  match Regex.read { extended, ignoresCase } (if extended then a else withPlainOperators a) with
  | .ok (r, _) => return .regex r
  | .error fault => failWith fault.message

private def sizeArgument : FindReader FindStep := do
  let a ← argumentOf "-size"
  let (how, cs) : FindCompare × List Char := match a.toList with
    | '+' :: cs => (.more, cs)
    | '-' :: cs => (.less, cs)
    | cs => (.equal, cs)
  let digits := cs.takeWhile Char.isDigit
  let unit : Option Nat := match cs.drop digits.length with
    | [] | ['b'] => some 512
    | ['c'] => some 1
    | ['w'] => some 2
    | ['k'] => some 1024
    | ['M'] => some (twoTo 20)
    | ['G'] => some (twoTo 30)
    | _ => none
  match natOf? (String.ofList digits), unit with
  | some n, some u => return .size how n u
  | _, _ => failWith ("invalid -size type \x60" ++ String.ofList (cs.drop (digits.length)) ++ "'")

/-- A command up to a semicolon, or up to a plus sign behind the sign for the paths. -/
private def commandArgument (name : String) : (fuel : Nat) → List String → FindReader FindStep
  | 0, _ => failWith ("missing argument to \x60" ++ name ++ "'")
  | fuel + 1, words => do
    let s ← get
    match s.rest with
    | [] => failWith ("missing argument to \x60" ++ name ++ "'")
    | ";" :: rest =>
      set { s with rest }
      if words.isEmpty then failWith ("missing argument to \x60" ++ name ++ "'")
      return .run words
    | "{}" :: "+" :: rest =>
      set { s with rest, commands := s.commands ++ [words] }
      return .runAll s.commands.length
    | w :: rest =>
      set { s with rest }
      commandArgument name fuel (words ++ [w])

/-- A condition or action by its name; an option of the whole search always holds. -/
private def stepOf (name : String) : FindReader FindStep := do
  match name with
  | "-name" => return .name (← patternArgument false name) false
  | "-iname" => return .name (← patternArgument true name) true
  | "-path" | "-wholename" => return .path (← patternArgument false name) false
  | "-ipath" | "-iwholename" => return .path (← patternArgument true name) true
  | "-regex" => regexArgument false name
  | "-iregex" => regexArgument true name
  | "-type" | "-xtype" =>
    let letters := ((← argumentOf name).toList.splitOn ',').flatten
    match letters.find? fun c => !"bcdpflsD".toList.contains c with
    | some bad => failWith s!"Unknown argument to {name}: {bad}"
    | none => return .type letters
  | "-size" => sizeArgument
  | "-perm" => return .permissions (← argumentOf name)
  | "-empty" => return .empty
  | "-executable" => return .runnable
  | "-readable" | "-writable" | "-true" => return .always true
  | "-false" => return .always false
  | "-newer" | "-anewer" | "-cnewer" | "-mmin" | "-amin" | "-cmin" | "-mtime" | "-atime" | "-ctime" =>
    let _ ← argumentOf name
    return .always false
  | "-user" | "-group" | "-uid" | "-gid" | "-fstype" | "-links" =>
    let _ ← argumentOf name
    return .always true
  | "-print" => return .print "\n"
  | "-print0" => return .print "\x00"
  | "-printf" => return .format (← argumentOf name).toList
  | "-delete" =>
    modify fun s => { s with depthFirst := true }
    return .delete
  | "-prune" => return .prune
  | "-quit" => return .quit
  | "-exec" | "-execdir" | "-ok" => commandArgument name ((← get).rest.length + 1) []
  | "-maxdepth" =>
    let n ← depthArgument name
    modify fun s => { s with most := some n }
    return .always true
  | "-mindepth" =>
    let n ← depthArgument name
    modify fun s => { s with least := n }
    return .always true
  | "-depth" | "-d" =>
    modify fun s => { s with depthFirst := true }
    return .always true
  | "-regextype" =>
    let a ← argumentOf name
    modify fun s => { s with extended := (a.splitOn "extended").length ≠ 1 || a = "egrep" }
    return .always true
  | "-mount" | "-xdev" | "-follow" | "-noleaf" | "-daystart" | "-warn" | "-nowarn" | "-noignore_readdir_race"
  | "-ignore_readdir_race" => return .always true
  | name => failWith ("unknown predicate \x60" ++ name ++ "'")

private def isOr (w : String) : Bool := w = "-o" || w = "-or"

private def isAnd (w : String) : Bool := w = "-a" || w = "-and"

private def isNot (w : String) : Bool := w = "!" || w = "-not"

mutual

/-- Expressions joined by commas. -/
private def readList : (fuel : Nat) → FindReader FindExpression
  | 0 => failWith "too long"
  | fuel + 1 => do
    let a ← readEither fuel
    match (← get).rest with
    | "," :: rest =>
      modify fun s => { s with rest }
      return .then' a (← readList fuel)
    | _ => return a

/-- Expressions joined by `-o`. -/
private def readEither : (fuel : Nat) → FindReader FindExpression
  | 0 => failWith "too long"
  | fuel + 1 => do
    let a ← readBoth fuel
    match (← get).rest with
    | w :: rest =>
      if isOr w then
        modify fun s => { s with rest }
        if rest.isEmpty then failWith (s!"expected an expression after " ++ quotedPhrase w)
        return .or a (← readEither fuel)
      else return a
    | [] => return a

/-- Expressions joined by `-a` or by nothing. -/
private def readBoth : (fuel : Nat) → FindReader FindExpression
  | 0 => failWith "too long"
  | fuel + 1 => do
    let a ← readOne fuel
    match (← get).rest with
    | [] => return a
    | w :: rest =>
      if isOr w || w = "," || w = ")" then return a
      if isAnd w then
        modify fun s => { s with rest }
        if rest.isEmpty then failWith ("expected an expression after " ++ quotedPhrase w)
      return .and a (← readBoth fuel)

/-- One expression. -/
private def readOne : (fuel : Nat) → FindReader FindExpression
  | 0 => failWith "too long"
  | fuel + 1 => do
    let s ← get
    match s.rest with
    | [] => failWith "expected an expression"
    | w :: rest =>
      set { s with rest }
      if isNot w then
        if rest.isEmpty then failWith ("expected an expression after " ++ quotedPhrase w)
        return .not (← readOne fuel)
      else if w = "(" then
        if rest.head? = some ")" then
          failWith "invalid expression; empty parentheses are not allowed."
        let a ← readList fuel
        match (← get).rest with
        | ")" :: rest =>
          modify fun s => { s with rest }
          return a
        | _ => failWith "invalid expression; I was expecting to find a ')' somewhere but did not see one."
      else if isOr w || isAnd w || w = "," then
        failWith ("invalid expression; you have used a binary operator " ++ quotedPhrase w
          ++ " with nothing before it.")
      else if w = ")" then failWith "you have too many ')'"
      else if w.toList.head? = some '-' then return .step (← stepOf w)
      else failWith ("paths must precede expression: \x60" ++ w ++ "'")

end

/-- The expression that words make, with what was read besides it. -/
private def readAll (words : List String) : Except String (FindExpression × FindReading) := do
  if words.isEmpty then return (.step (.print "\n"), { rest := [] })
  let (e, s) ← (readList (6 * words.length + 6)).run { rest := words }
  match s.rest with
  | [] =>
    if e.steps.any FindStep.isAction then return (e, s) else return (.and e (.step (.print "\n")), s)
  | ")" :: _ => throw "you have too many ')'"
  | w :: _ => throw ("paths must precede expression: \x60" ++ w ++ "'")

/-! ### Searching -/

/-- The state of a search. -/
private structure Search' where
  /-- The paths for the commands that are carried out at the end. -/
  collected : List (Nat × String) := []
  /-- What lies in the current directory is left out. -/
  pruned : Bool := false
  stopped : Bool := false
  complete : Bool := true

private abbrev Searching := StateT Search' Acting

/-- The text of a path by a format. -/
private def formatted (s : Session) (start : String) (w : Walked) : (fuel : Nat) → List Char → List Char
  | 0, _ | _, [] => []
  | fuel + 1, '\\' :: c :: rest =>
    let d := (Regex.controlChar? c).getD (if c = '0' then '\x00' else c)
    d :: formatted s start w fuel rest
  | fuel + 1, '%' :: c :: rest =>
    let directory := (w.path.toList.reverse.dropWhile (· ≠ '/')).drop 1 |>.reverse
    let text : List Char := match c with
      | 'p' => w.path.toList
      | 'f' => (lastName w.path).toList
      | 'h' => if directory.isEmpty then ['.'] else directory
      | 'P' => (w.path.toList.drop start.length).dropWhile (· = '/')
      | 'H' => start.toList
      | 'd' => (toString w.depth).toList
      | 's' =>
        match s.files.stat s.here w.path with
        | .ok (.file bytes) => (toString bytes.length).toList
        | _ => "4096".toList
      | 'y' => if s.files.isDirectory s.here w.path then ['d'] else ['f']
      | 'm' =>
        if s.files.isDirectory s.here w.path then "755".toList
        else if (s.files.locate s.here w.path).toOption.any s.runnable.contains then "755".toList
        else "644".toList
      | '%' => ['%']
      | c => ['%', c]
    text ++ formatted s start w fuel rest
  | fuel + 1, c :: rest => c :: formatted s start w fuel rest

private def complainAs (st : Streams) (message : String) : Searching Unit := do
  emitText st.err s!"find: {message}\n"
  modify fun s => { s with complete := false }

/-- Carry out a condition or action for a path: whether it holds. -/
private def perform (st : Streams) (launch : Launch) (start : String) (w : Walked) :
    FindStep → Searching Bool
  | .name p ignoresCase => do
    let name := lastName w.path
    return p.accepts (if ignoresCase then name.toLower else name).toList
  | .path p ignoresCase =>
    return p.accepts (if ignoresCase then w.path.toLower else w.path).toList
  | .regex r =>
    let text := argumentChars w.path
    return (Regex.matchAt? [r] (fun m => m.stop.rest.isEmpty) ⟨[], text, []⟩).isSome
  | .type letters => do
    let s ← liftM (m := Acting) (n := Searching) get
    return letters.contains (if s.files.isDirectory s.here w.path then 'd' else 'f')
  | .size how count unit => do
    let s ← liftM (m := Acting) (n := Searching) get
    let size := match s.files.stat s.here w.path with
      | .ok (.file bytes) => bytes.length
      | _ => 4096
    let n := (size + unit - 1) / unit
    return match how with
      | .more => count < n
      | .less => n < count
      | .equal => n = count
  | .permissions digits => do
    let s ← liftM (m := Acting) (n := Searching) get
    let runs := s.files.isDirectory s.here w.path
      || (s.files.locate s.here w.path).toOption.any s.runnable.contains
    return (if runs then ["755", "0755"] else ["644", "0644"]).contains digits
  | .empty => do
    let s ← liftM (m := Acting) (n := Searching) get
    return match s.files.stat s.here w.path with
      | .ok (.file bytes) => bytes.isEmpty
      | .ok .directory => ((s.files.list s.here w.path).toOption.getD []).isEmpty
      | .error _ => false
  | .runnable => do
    let s ← liftM (m := Acting) (n := Searching) get
    return s.files.isDirectory s.here w.path
      || (s.files.locate s.here w.path).toOption.any s.runnable.contains
  | .sameAs place => do
    let s ← liftM (m := Acting) (n := Searching) get
    return (s.files.locate s.here w.path).toOption = place
  | .always value => return value
  | .print ending => do
    emitText st.out (w.path ++ ending)
    return true
  | .format text => do
    let s ← liftM (m := Acting) (n := Searching) get
    emitText st.out (String.ofList (formatted s start w (text.length + 1) text))
    return true
  | .delete => do
    let s ← liftM (m := Acting) (n := Searching) get
    let entries := (s.files.list s.here w.path).toOption.getD []
    match s.files.locate s.here w.path with
    | .ok place =>
      if w.path = "." then return true
      else if entries.isEmpty then
        change (.remove place)
        return true
      else
        let shown := quotedName w.path
        complainAs st s!"cannot delete {shown}: Directory not empty"
        return false
    | .error _ => return false
  | .prune => do
    modify fun s => { s with pruned := true }
    return true
  | .quit => do
    modify fun s => { s with stopped := true }
    return true
  | .run words => do
    let filled := words.map fun word => w.path.intercalate (word.splitOn "{}")
    match ← launchOutcome launch filled with
    | .ok status => return status = 0
    | .error e =>
      let shown := quotedPhrase (filled.headD "")
      emitText st.err s!"find: {shown}: {e.description}\n"
      return false
  | .runAll index => do
    modify fun s => { s with collected := s.collected ++ [(index, w.path)] }
    return true

/-- The value of an expression for a path. -/
private def holds (st : Streams) (launch : Launch) (start : String) (w : Walked) :
    FindExpression → Searching Bool
  | .step s => do
    if (← get).stopped then return false
    perform st launch start w s
  | .not e => return !(← holds st launch start w e)
  | .and a b => do
    if ← holds st launch start w a then holds st launch start w b else return false
  | .or a b => do
    if ← holds st launch start w a then return true else holds st launch start w b
  | .then' a b => do
    let _ ← holds st launch start w a
    holds st launch start w b

/-- Search a path and what lies below it. -/
private def searchBelow (st : Streams) (launch : Launch) (e : FindExpression) (how : FindReading)
    (start : String) : (fuel depth : Nat) → String → Searching Unit
  | 0, _, _ => return
  | fuel + 1, depth, path => do
    if (← get).stopped then return
    let here : Searching Unit := do
      modify fun s => { s with pruned := false }
      if how.least ≤ depth then
        let _ ← holds st launch start ⟨path, depth⟩ e
    let inside : Searching Unit := do
      let s ← liftM (m := Acting) (n := Searching) get
      if how.most.all (depth < ·) then
        for n in (s.files.list s.here path).toOption.getD [] do
          searchBelow st launch e how start fuel (depth + 1) (Glob.joined path n)
    if how.depthFirst then
      inside
      unless (← get).stopped do here
    else
      here
      unless (← get).pruned || (← get).stopped do inside

/-- Find files, and show them or do something with them. -/
def find (launch : Launch) : Program := fun st args => do
  let args := args.dropWhile fun a => ["-H", "-L", "-P"].contains a
  let (paths, words) := args.span fun a =>
    a.toList.head? ≠ some '-' && !(["!", "(", ")", ","].contains a)
  match readAll words with
  | .error message =>
    emitText st.err s!"find: {message}\n"
    return 1
  | .ok (e, how) =>
    let search : Searching Unit := do
      for p in (if paths.isEmpty then ["."] else paths) do
        let s ← liftM (m := Acting) (n := Searching) get
        match s.files.stat s.here p with
        | .error e =>
          let shown := quotedPhrase p
          complainAs st s!"{shown}: {e.description}"
        | .ok _ => searchBelow st launch e how p (depthOf s.files + 1) 0 p
    let (_, found) ← search.run {}
    let mut complete := found.complete
    for (words, i) in how.commands.zipIdx do
      let paths := found.collected.filterMap fun (j, p) => if i = j then some p else none
      unless paths.isEmpty do
        match ← launchOutcome launch (words ++ paths) with
        | .ok status => if status ≠ 0 then complete := false
        | .error e =>
          let shown := quotedPhrase (words.headD "")
          emitText st.err s!"find: {shown}: {e.description}\n"
          complete := false
    return statusOf complete

end StepFlow.Shell

import StepFlow.Shell.Programs.Options

/-!
# Programs that carry out others

Programs that carry out another program: with other variables, with arguments from the input, or just
so. What they do not find they report in words of their own.

## Main definitions

* `env`, `printenv` — the variables that programs see
* `xargs` — arguments from the input
* `nohup`, `nice`, `setsid`, `stdbuf`
-/

namespace StepFlow.Shell

/-- The status of a program that could not be carried out. -/
private def launchStatus (e : FileCause) : Nat := if e = .notFound then 127 else 126

/-- Carry out a program, or report that it cannot be, with the name between the parts of a message. -/
private def launched (launch : Launch) (st : Streams) (report : String → String) (words : List String) :
    Acting Nat := do
  match ← launch words with
  | .ok status => return status
  | .error e =>
    let message := report (words.headD "")
    emitText st.err s!"{message}: {e.description}\n"
    return launchStatus e

/-- Carry out a program under the name of another one. -/
private def launchedBy (name : String) (launch : Launch) (st : Streams) (words : List String) :
    Acting Nat :=
  launched launch st (fun word => s!"{name}: " ++ quotedPhrase word) words

/-! ### Variables -/

/-- The variables that programs see, each as a line ended by a mark. -/
private def environmentLines (s : Session) (mark : String) : String :=
  String.join (s.exported.map fun n =>
    match s.vars.get? n with
    | some v => n ++ "=" ++ v ++ mark
    | none => "")

/-- Show variables that programs see. -/
def printenv : Program := withOptions "printenv" 2 (flags [["0", "null"]]) fun st g => do
  let s ← get
  let mark := if g.has "0" then "\x00" else "\n"
  if g.operands.isEmpty then
    emitText st.out (environmentLines s mark)
    return 0
  let mut complete := true
  for n in g.operands do
    match if s.exported.contains n then s.vars.get? n else none with
    | some v => emitText st.out (v ++ mark)
    | none => complete := false
  return statusOf complete

private def envOptions : OptionSet :=
  { options := flags [["i", "ignore-environment"], ["0", "null"], ["v", "debug"]]
      ++ valued [["u", "unset"], ["C", "chdir"], ["S", "split-string"]]
    endsAtOperand := true }

/-- A name and a value joined by an equals sign. -/
private def settingOf? (s : String) : Option (String × String) :=
  match s.toList.span (· ≠ '=') with
  | (name, _ :: value) => some (String.ofList name, String.ofList value)
  | (_, []) => none

/-- The words of a text; quotes and backslashes keep blanks. -/
private def wordsOfText : List Char → (quote : Option Char) → (word : Option (List Char)) →
    List (List Char)
  | [], _, word => word.toList
  | '\\' :: c :: rest, quote, word => wordsOfText rest quote (some ((word.getD []) ++ [c]))
  | c :: rest, some q, word =>
    if c = q then wordsOfText rest none (some (word.getD []))
    else wordsOfText rest (some q) (some ((word.getD []) ++ [c]))
  | c :: rest, none, word =>
    if c = '\'' || c = '"' then wordsOfText rest (some c) (some (word.getD []))
    else if c.isWhitespace then word.toList ++ wordsOfText rest none none
    else wordsOfText rest none (some ((word.getD []) ++ [c]))

/-- Arguments in which the text of the option for several words is put in its place. -/
private def splitWords : List String → List String
  | "-S" :: text :: rest => (wordsOfText text.toList none none).map String.ofList ++ rest
  | a :: rest =>
    match a.toList with
    | '-' :: 'S' :: text => (wordsOfText text none none).map String.ofList ++ rest
    | _ => a :: rest
  | [] => []

/-- Carry out an activity and put back the variables and the directory that were there before. -/
private def keepingPlace (act : Acting Nat) : Acting Nat := do
  let s ← get
  let r ← outcome act
  modify fun t => { t with vars := s.vars, exported := s.exported, here := s.here }
  match r with
  | .ok n => return n
  | .error other => throw other

/-- Carry out a program with other variables or in another directory, or show the variables. -/
def env (launch : Launch) : Program := fun st args => keepingPlace do
  let refused (message : String) : Acting Nat := misused st "env" message 125
  match envOptions.read (splitWords args) with
  | .error complaint => refused complaint
  | .ok g =>
    let isEmpty := g.has "i" || g.operands.head? = some "-"
    let operands := if g.operands.head? = some "-" then g.operands.drop 1 else g.operands
    if isEmpty then modify fun s => { s with exported := [] }
    let unset := g.values "u"
    modify fun s => { s with exported := s.exported.filter (!unset.contains ·) }
    let settings := operands.takeWhile fun o => (settingOf? o).isSome
    for (n, v) in settings.filterMap settingOf? do
      modify fun s => { s with
        vars := s.vars.set n v
        exported := if s.exported.contains n then s.exported else s.exported ++ [n] }
    match operands.drop settings.length with
    | [] =>
      if (g.value? "C").isSome then refused "must specify command with --chdir (-C)"
      else
        emitText st.out (environmentLines (← get) (if g.has "0" then "\x00" else "\n"))
        return 0
    | words =>
      if g.has "0" then return ← refused "cannot specify --null (-0) with command"
      if let some path := g.value? "C" then
        let s ← get
        match s.files.list s.here path, s.files.locate s.here path with
        | .ok _, .ok place => set { s with here := place }
        | .error e, _ | _, .error e =>
          let shown := quotedName path
          emitText st.err s!"env: cannot change directory to {shown}: {e.description}\n"
          return 125
      launchedBy "env" launch st words

/-! ### Arguments from the input -/

/-- How many arguments one program gets. -/
private inductive ArgumentPortion where
  | all
  | arguments (n : Nat)
  | lines (n : Nat)
  /-- A line in place of a mark. -/
  | replacing (mark : String)
  deriving DecidableEq

/-- How `xargs` reads its arguments. -/
private structure ArgumentReading where
  portion : ArgumentPortion := .all
  /-- The byte that ends an argument; without one, blanks do, and quotes keep them. -/
  delimiter : Option UInt8 := none
  /-- The argument that ends all. -/
  last : Option String := none
  longest : Nat := 131072

private def xargsOptions : OptionSet :=
  { options := flags [["0", "null"], ["r", "no-run-if-empty"], ["t", "verbose"], ["x", "exit"],
        ["p", "interactive"], ["o", "open-tty"]]
      ++ valued [["a", "arg-file"], ["d", "delimiter"], ["E"], ["I"], ["L"], ["n", "max-args"],
        ["P", "max-procs"], ["s", "max-chars"]]
      ++ optionallyValued [["e", "eof"], ["i", "replace"], ["l", "max-lines"]]
    endsAtOperand := true }

/-- An argument from the input, and whether its line ends with it. -/
private structure Item where
  bytes : List Char
  endsLine : Bool

/-- The arguments in a text: separated by blanks, or one for each line. Quotes and backslashes keep
blanks. A line that ends with a blank goes on in the next one. A quote that is not closed in its line
is a mistake. -/
private def itemsIn (byLine : Bool) : List Char → (quote : Option Char) → (word : Option (List Char)) →
    Except String (List Item)
  | [], some q, _ => throw (if q = '"' then "double" else "single")
  | [], none, word => return (word.toList.map fun w => ⟨w, true⟩)
  | '\n' :: rest, some q, word =>
    if rest.isEmpty && word.isNone then itemsIn byLine rest (some q) word
    else throw (if q = '"' then "double" else "single")
  | '\n' :: rest, none, word => do
    let more ← itemsIn byLine rest none none
    return (word.toList.map fun w => ⟨w, true⟩) ++ more
  | '\\' :: c :: rest, none, word => itemsIn byLine rest none (some ((word.getD []) ++ [c]))
  | c :: rest, some q, word =>
    if c = q then itemsIn byLine rest none (some (word.getD []))
    else itemsIn byLine rest (some q) (some ((word.getD []) ++ [c]))
  | c :: rest, none, word =>
    if c = '\'' || c = '"' then itemsIn byLine rest (some c) (some (word.getD []))
    else if c = ' ' || c = '\t' then
      if byLine then itemsIn byLine rest none (word.map (· ++ [c]))
      else do
        let more ← itemsIn byLine rest none none
        return (word.toList.map fun w => ⟨w, false⟩) ++ more
    else itemsIn byLine rest none (some ((word.getD []) ++ [c]))

/-- The arguments that the input holds. -/
private def itemsOfInput (how : ArgumentReading) (bytes : List UInt8) : Except String (List Item) :=
  match how.delimiter with
  | some mark => return (piecesOf mark bytes).map fun piece => ⟨charsOf piece, true⟩
  | none => do
    let byLine := match how.portion with
      | .replacing _ => true
      | _ => false
    let items ← itemsIn byLine (charsOf bytes) none none
    return match how.last with
      | some text => items.takeWhile fun i => i.bytes ≠ argumentChars text
      | none => items

/-- The first lines of arguments, and what follows them. -/
private def lineGroup : (lines : Nat) → List Item → List Item × List Item
  | 0, items => ([], items)
  | _, [] => ([], [])
  | n + 1, i :: rest =>
    let (group, behind) := lineGroup (if i.endsLine then n else n + 1) rest
    (i :: group, behind)

/-- The arguments that a text of limited length can hold, each with a blank before it, and the rest. -/
private def fitting : (room : Nat) → List Item → List Item × List Item
  | _, [] => ([], [])
  | room, i :: rest =>
    if room < i.bytes.length + 1 then ([], i :: rest)
    else
      let (group, behind) := fitting (room - (i.bytes.length + 1)) rest
      (i :: group, behind)

/-- The groups of arguments, each for one program; `none` if one of them is too long. -/
private def argumentGroups (how : ArgumentReading) (room : Nat) : (fuel : Nat) → List Item →
    Option (List (List Item))
  | 0, _ => some []
  | _, [] => some []
  | fuel + 1, items =>
    let (group, rest) := match how.portion with
      | .all => (items, [])
      | .arguments n => (items.take n, items.drop n)
      | .lines n => lineGroup n items
      | .replacing _ => (items.take 1, items.drop 1)
    let (group, cut) := fitting room group
    if group.isEmpty then none
    else (argumentGroups how room fuel (cut ++ rest)).map (group :: ·)

/-- The words of a program with a group of arguments. -/
private def wordsWith (how : ArgumentReading) (words : List String) (group : List Item) : List String :=
  let texts := group.map fun i => textOf (bytesOfChars i.bytes)
  match how.portion with
  | .replacing mark =>
    let text := texts.headD ""
    (words.headD "") :: (words.drop 1).map fun w =>
      if mark = "" then w else text.intercalate (w.splitOn mark)
  | _ => words ++ texts

/-- A number that an option needs. -/
private def positiveNumber (option value : String) (least : Nat) : Except String Nat :=
  match intOf? value with
  | none => throw s!"invalid number \"{value}\" for -{option} option"
  | some n =>
    if n < least then throw s!"value {n} for -{option} option should be >= {least}" else return n.toNat

/-- One portion in place of another one, with a warning if that is different. -/
private def portionAfter (old : ArgumentPortion) (option : String) (value : Option String) :
    Except String (ArgumentPortion × Option String) := do
  let warn (a b : String) : Option String :=
    some s!"warning: options {a} and {b} are mutually exclusive, ignoring previous {a} value"
  let before (name : String) : Option String := match old with
    | .all => none
    | .arguments _ => if name = "--max-args/-n" then none else warn "--max-args" name
    | .lines _ => if name = "-L" then none else warn "--max-lines" name
    | .replacing _ => if name = "--replace/-I/-i" then none else warn "--replace" name
  match option with
  | "n" =>
    let n ← positiveNumber "n" (value.getD "") 1
    match old with
    | .replacing _ => if n = 1 then return (old, none) else return (.arguments n, before "--max-args/-n")
    | _ => return (.arguments n, before "--max-args/-n")
  | "L" => return (.lines (← positiveNumber "L" (value.getD "") 1), before "-L")
  | "l" => return (.lines (← positiveNumber "l" (value.getD "1") 1), before "-L")
  | _ => return (.replacing (value.getD "\x7b\x7d"), before "--replace/-I/-i")

/-- The byte that a text for a delimiter stands for. -/
private def delimiterOf (text : String) : Except String UInt8 :=
  match bytesOf text with
  | [b] => return b
  | 92 :: b :: rest =>
    let letter := Char.ofNat b.toNat
    match [('a', 7), ('b', 8), ('f', 12), ('n', 10), ('r', 13), ('t', 9), ('v', 11), ('\\', 92)].lookup
      letter with
    | some n => return UInt8.ofNat n
    | none =>
      if letter.isDigit then
        return UInt8.ofNat (digitsValue 8 ((charsOf (b :: rest)).filterMap asciiDigit?))
      else throw s!"Invalid escape sequence {text} in input delimiter specification."
  | _ => throw (s!"Invalid input delimiter specification {text}: the delimiter must be either a single "
      ++ "character or an escape sequence starting with \\.")

/-- How arguments are read, by options; and warnings. -/
private def readingOf : List (String × Option String) → ArgumentReading → List String →
    Except String (ArgumentReading × List String)
  | [], how, warnings => return (how, warnings)
  | (name, value) :: rest, how, warnings => do
    match name with
    | "n" | "L" | "l" | "I" | "i" => do
      let (portion, warning) ← portionAfter how.portion name value
      readingOf rest { how with portion } (warnings ++ warning.toList)
    | "0" => readingOf rest { how with delimiter := some 0 } warnings
    | "d" => readingOf rest { how with delimiter := some (← delimiterOf (value.getD "")) } warnings
    | "E" | "e" => readingOf rest { how with last := value } warnings
    | "s" => readingOf rest { how with longest := ← positiveNumber "s" (value.getD "") 1 } warnings
    | "P" => do
      let _ ← positiveNumber "P" (value.getD "") 0
      readingOf rest how warnings
    | _ => readingOf rest how warnings

/-- Carry out a program with one group of arguments after the other. A program that cannot go on, or
that asks for it with status 255, ends all. -/
private def carryOutGroups (launch : Launch) (st : Streams) (shows : Bool) :
    (status : Nat) → List (List String) → Acting Nat
  | status, [] => return status
  | status, words :: rest => do
    let name := words.headD ""
    if shows then emitText st.err (" ".intercalate (words.map shownName) ++ "\n")
    match ← outcome (launch words) with
    | .ok (.ok n) =>
      if n = 0 then carryOutGroups launch st shows status rest
      else if n = 255 then
        emitText st.err s!"xargs: {name}: exited with status 255; aborting\n"
        return 124
      else carryOutGroups launch st shows 123 rest
    | .ok (.error e) =>
      emitText st.err s!"xargs: {name}: {e.description}\n"
      return launchStatus e
    | .error (.killed n) =>
      emitText st.err s!"xargs: {name}: terminated by signal {n}\n"
      return 125
    | .error other => throw other

private def xargsFailed (st : Streams) (message : String) : Acting Nat := do
  emitText st.err s!"xargs: {message}\n"
  return 1

/-- Carry out a program with the arguments that bytes hold. -/
private def carryOutWith (launch : Launch) (st : Streams) (g : Given) (how : ArgumentReading)
    (bytes : List UInt8) : Acting Nat := do
  match itemsOfInput how bytes with
  | .error kind =>
    xargsFailed st
      s!"unmatched {kind} quote; by default quotes are special to xargs unless you use the -0 option"
  | .ok items =>
    let words := if g.operands.isEmpty then ["echo"] else g.operands
    let replaces := match how.portion with
      | .replacing _ => true
      | _ => false
    if items.isEmpty then
      if g.has "r" || replaces then return 0 else carryOutGroups launch st (g.has "t") 0 [words]
    else
      let used := (words.map fun w => (bytesOf w).length + 1).foldl (· + ·) 0
      match argumentGroups how (how.longest - used) (items.length + 1) items with
      | none => xargsFailed st "argument line too long"
      | some groups => carryOutGroups launch st (g.has "t") 0 (groups.map (wordsWith how words))

/-- Carry out a program with words of the input as further arguments. -/
def xargs (launch : Launch) : Program := fun st args => do
  match xargsOptions.read args with
  | .error complaint => misused st "xargs" complaint 1
  | .ok g =>
    match readingOf g.options {} [] with
    | .error complaint => misused st "xargs" complaint 1
    | .ok (how, warnings) =>
      warnings.forM fun w => emitText st.err s!"xargs: {w}\n"
      match g.value? "a" with
      | none => carryOutWith launch st g how (← takeInput)
      | some name =>
        match ← bytesAt name with
        | .ok bytes => carryOutWith launch st g how bytes
        | .error e =>
          let shown := quotedPhrase name
          xargsFailed st s!"Cannot open input file {shown}: {e.description}"

/-! ### Programs that change nothing here -/

/-- Carry out a program that goes on when the terminal is gone. -/
def nohup (launch : Launch) : Program := fun st args => do
  match (OptionSet.mk [] true).read args with
  | .error complaint => misused st "nohup" complaint 125
  | .ok { operands := [], .. } => misused st "nohup" "missing operand" 125
  | .ok g =>
    launched launch st (fun word => "nohup: failed to run command " ++ quotedPhrase word) g.operands

/-- Carry out a program with less urgency. -/
def nice (launch : Launch) : Program := fun st args => do
  let args := match args with
    | a :: rest =>
      match a.toList with
      | '-' :: c :: cs => if (c :: cs).all Char.isDigit then "-n" :: String.ofList (c :: cs) :: rest else args
      | _ => args
    | [] => []
  match (OptionSet.mk (valued [["n", "adjustment"]]) true).read args with
  | .error complaint => misused st "nice" complaint 125
  | .ok g =>
    match (g.value? "n").map intOf? with
    | some none =>
      let shown := quotedPhrase ((g.value? "n").getD "")
      emitText st.err s!"nice: invalid adjustment {shown}\n"
      return 125
    | adjustment =>
      if g.operands.isEmpty then
        if adjustment.isSome then return ← misused st "nice" "a command must be given with an adjustment" 125
        emitText st.out "0\n"
        return 0
      else launchedBy "nice" launch st g.operands

/-- Carry out a program in a session of its own. -/
def setsid (launch : Launch) : Program := fun st args => do
  match (OptionSet.mk (flags [["c", "ctty"], ["f", "fork"], ["w", "wait"]]) true).read args with
  | .error complaint => misused st "setsid" complaint 1
  | .ok g =>
    if g.operands.isEmpty then misused st "setsid" "no command specified" 1
    else launched launch st ("setsid: failed to execute " ++ ·) g.operands

/-- Carry out a program that writes sooner or later. -/
def stdbuf (launch : Launch) : Program := fun st args => do
  match (OptionSet.mk (valued [["i", "input"], ["o", "output"], ["e", "error"]]) true).read args with
  | .error complaint => misused st "stdbuf" complaint 125
  | .ok g =>
    if g.operands.isEmpty then misused st "stdbuf" "missing operand" 125
    else if g.options.isEmpty then misused st "stdbuf" "you must specify a buffering mode option" 125
    else launched launch st (fun word => "stdbuf: failed to run command " ++ quotedPhrase word) g.operands

end StepFlow.Shell

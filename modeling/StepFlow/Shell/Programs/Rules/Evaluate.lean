import StepFlow.Fields
import StepFlow.Number.Analysis
import StepFlow.Shell.Programs.Rules.Datum
import StepFlow.Shell.Programs.Rules.Record

/-!
# Carrying out rules

Each record of the files goes through all rules. What is printed is kept until another program is
begun or the script ends; what is printed to a command is its input when it is closed.

## Main definitions

* `State`, `Doing` — what a script works on
* `Evaluator`, `evaluator` — values of expressions and effects of statements
* `RuleSet.run` — a whole script
-/

namespace StepFlow.Shell.Rules

/-! ### The state of a script -/

/-- What a name stands for within a procedure. -/
inductive Local where
  | value (d : Datum)
  | table (number : Nat)
  /-- Not used yet; the number is that of the table it will be if it is used as one. -/
  | open (number : Nat)
  deriving DecidableEq, Repr, Inhabited

/-- A text from which records are read. -/
structure Reader where
  name : String
  rest : List Char
  deriving Repr, Inhabited

/-- Where output goes that is not for the output of the script. -/
inductive Outlet where
  | file (sink : Sink)
  /-- A command, with the input that it has so far. -/
  | command (bytes : List UInt8)
  deriving Repr, Inhabited

structure State where
  streams : Streams
  launch : Launch
  procedures : List Procedure
  vars : Fields Datum
  /-- The tables, each under its number. -/
  tables : List Table := []
  /-- The numbers of the tables that have names. -/
  tableNames : Fields Nat := []
  locals : Fields Local := []
  record : List Char := []
  fields : List Datum := []
  /-- The number of the argument to be read next. -/
  argument : Nat := 1
  /-- An argument has named a file. -/
  hasFile : Bool := false
  current : Option Reader := none
  /-- What is read apart from the files of the script. -/
  readers : List Reader := []
  outlets : List (String × Outlet) := []
  /-- Output that is still kept. -/
  kept : List UInt8 := []
  /-- For each rule, whether it is within a range of records. -/
  within : List Bool := []
  seed : Nat := 0

/-- Why the course of a script is left. -/
inductive Jump where
  | leave
  | again
  | next
  | nextFile
  | giveBack (d : Datum)
  | exit (status : Option Nat)
  /-- A fault, which ends the script. -/
  | fault (message : String)

abbrev Doing := ExceptT Jump (StateT State Acting)

private def act {α : Type} (a : Acting α) : Doing α := ExceptT.lift (StateT.lift a)

/-! ### Variables -/

/-- The format of numbers as texts. -/
private def conversion : Doing (List Char) := do
  return match (← get).vars.get? "CONVFMT" with
    | some d => d.chars []
    | none => []

private def charsOfDatum (d : Datum) : Doing (List Char) := return d.chars (← conversion)

/-- A variable that is no field count, as a text. -/
private def varChars (name : String) : Doing (List Char) := do
  match (← get).vars.get? name with
  | some d => charsOfDatum d
  | none => return []

private def varText (name : String) : Doing String := return String.ofList (← varChars name)

private def setVar (name : String) (d : Datum) : Doing Unit :=
  modify fun s => { s with vars := s.vars.set name d }

private def varNumber (name : String) : Doing Double := do
  return (((← get).vars.get? name).getD .unset).value

private def countUp (name : String) : Doing Unit := do
  setVar name (.number ((← varNumber name).add (.ofInt 1)))

private def runTimeFault {α : Type} (message : String) : Doing α := do
  let file ← varText "FILENAME"
  let files ← varText "FNR"
  let records ← varText "NR"
  throw (.fault s!"run time error: {message}\n\tFILENAME=\"{file}\" FNR={files} NR={records}")

private def compiled (cs : List Char) : Doing Regex := do
  match regexOf cs with
  | .ok r => return r
  | .error fault => runTimeFault (regexComplaint fault cs)

/-! ### Records and fields -/

/-- Separator of fields that a text stands for. -/
private def separatorOf (cs : List Char) : Doing Separator := do
  match Separator.ofText cs with
  | .ok s => return s
  | .error fault => runTimeFault (regexComplaint fault cs)

/-- Take a text as the record. -/
private def setRecord (cs : List Char) : Doing Unit := do
  let separator ← separatorOf (← varChars "FS")
  let lines := (← varChars "RS").isEmpty
  modify fun s => { s with record := cs, fields := (separator.parts lines cs).map .input }

/-- Take fields as those of the record, which is their texts with the output separator between them. -/
private def setFields (fields : List Datum) : Doing Unit := do
  let format ← conversion
  let between ← varChars "OFS"
  modify fun s => { s with fields, record := between.intercalate (fields.map (·.chars format)) }

/-- The most fields that a record may have. -/
private def mostFields : Nat := 32767

private def fieldNumber (d : Datum) : Doing Nat := do
  let n := wholeOf d.value
  if n < 0 then runTimeFault s!"negative field index ${n}"
  else if mostFields < n.toNat then runTimeFault s!"field index too large {n}"
  else return n.toNat

private def field (n : Nat) : Doing Datum := do
  let s ← get
  return if n = 0 then .input s.record else (s.fields[n - 1]?).getD .unset

/-- As many fields as a number says. -/
private def withFieldCount (fields : List Datum) (n : Nat) : List Datum :=
  fields.take n ++ List.replicate (n - fields.length) (.text [])

private def setField (n : Nat) (d : Datum) : Doing Unit := do
  if n = 0 then setRecord (← charsOfDatum d)
  else
    let fields := (← get).fields
    setFields ((withFieldCount fields (max n fields.length)).set (n - 1) d)

/-! ### Tables -/

/-- The number of a new table. -/
private def newTable (t : Table) : Doing Nat := do
  let s ← get
  set { s with tables := s.tables ++ [t] }
  return s.tables.length

/-- The number of the table that a name stands for; it is made if there is none. -/
private def tableNumber (name : String) : Doing Nat := do
  let s ← get
  match s.locals.get? name with
  | some (.table n) => return n
  | some (.open n) =>
    set { s with locals := s.locals.set name (.table n) }
    return n
  | some (.value _) => runTimeFault s!"illegal reference to variable {name}"
  | none =>
    match s.tableNames.get? name with
    | some n => return n
    | none =>
      let n ← newTable {}
      modify fun s => { s with tableNames := s.tableNames.set name n }
      return n

/-- The table that a name stands for, if it stands for one. -/
private def table? (name : String) : Doing (Option Nat) := do
  let s ← get
  match s.locals.get? name with
  | some (.table n) => return some n
  | some _ => return none
  | none => return s.tableNames.get? name

private def table (n : Nat) : Doing Table := return ((← get).tables[n]?).getD {}

private def setTable (n : Nat) (t : Table) : Doing Unit :=
  modify fun s => { s with tables := s.tables.set n t }

/-- A value as a key, and whether it is a whole number. -/
private def keyOf (d : Datum) : Doing (List Char × Bool) := do
  let isCounted := match d with
    | .number x => (integer? x).isSome
    | _ => false
  return (← charsOfDatum d, isCounted)

/-- Look for an element, which makes it if it is not there. -/
private def element (n : Nat) (key : List Char) (isCounted : Bool) : Doing Datum := do
  let t := (← table n).touch key isCounted true
  setTable n t
  return (t.get? key).getD .unset

private def setElement (n : Nat) (key : List Char) (isCounted : Bool) (d : Datum) : Doing Unit := do
  setTable n (((← table n).touch key isCounted true).set key d)

/-! ### Names -/

private def nameValue (name : String) : Doing Datum := do
  let s ← get
  match s.locals.get? name with
  | some (.value d) => return d
  | some (.open _) => return .unset
  | some (.table _) => runTimeFault s!"illegal reference to array {name}"
  | none => return if name = "NF" then .ofNat s.fields.length else (s.vars.get? name).getD .unset

private def setName (name : String) (d : Datum) : Doing Unit := do
  let s ← get
  match s.locals.get? name with
  | some (.table _) => runTimeFault s!"illegal reference to array {name}"
  | some _ => set { s with locals := s.locals.set name (.value d) }
  | none =>
    if name = "NF" then
      let n := wholeOf d.value
      if n < 0 then runTimeFault "negative value assigned to NF"
      else setFields (withFieldCount s.fields (min n.toNat mostFields))
    else setVar name d

/-! ### Output -/

/-- Write the output that is kept. -/
private def release : Doing Unit := do
  let s ← get
  unless s.kept.isEmpty do
    set { s with kept := [] }
    act (emit s.streams.out s.kept)

/-- Write to the output of the script. -/
private def keep (bytes : List UInt8) : Doing Unit :=
  modify fun s => { s with kept := s.kept ++ bytes }

/-- A command as words that a shell carries out. -/
private def shellWords (command : String) : List String := ["/bin/sh", "-c", command]

/-- Carry out a command of a shell. -/
private def runCommand (command : String) : Doing Nat := do
  match ← act (launchOutcome (← get).launch (shellWords command)) with
  | .ok status => return status
  | .error _ => return 127

/-- Let a command go through the input it was given. -/
private def finishCommand (command : String) (bytes : List UInt8) : Doing Nat := do
  let s ← get
  let outcome ← act do
    let input ← newFeed ⟨bytes, none⟩
    withStreams { (← get).streams with input } (launchOutcome s.launch (shellWords command))
  return outcome.toOption.getD 127

/-- Write to a file or a command. -/
private def send (route : Route) (name : String) (bytes : List UInt8) : Doing Unit := do
  let s ← get
  if route ≠ .command && (name = "/dev/stdout" || name = "-") then keep bytes
  else if route ≠ .command && name = "/dev/stderr" then act (emit s.streams.err bytes)
  else match s.outlets.lookup name with
    | some (.file sink) => act (emit sink bytes)
    | some (.command old) =>
      set { s with outlets := s.outlets.map fun (o : String × Outlet) =>
              if o.1 = name then (name, .command (old ++ bytes)) else o }
    | none =>
      match route with
      | .command =>
        release
        modify fun s => { s with outlets := s.outlets ++ [(name, .command bytes)] }
      | _ =>
        match ← act (fileSink name (route = .fileEnd)) with
        | .error e => throw (.fault s!"cannot open {name} ({e.description})")
        | .ok sink =>
          modify fun s => { s with outlets := s.outlets ++ [(name, .file sink)] }
          act (emit sink bytes)

/-- Close what has a name; gives its status, or -1 if there is nothing of that name. -/
private def close (name : String) : Doing Int := do
  let s ← get
  let outlet := s.outlets.lookup name
  let isRead := s.readers.any (·.name == name)
  set { s with
    outlets := s.outlets.filter (·.1 ≠ name), readers := s.readers.filter (·.name ≠ name) }
  match outlet with
  | some (.command bytes) => return (← finishCommand name bytes : Nat)
  | some (.file _) => return 0
  | none => return if isRead then 0 else -1

/-- Close all commands, and write what is kept. -/
def finishOutput : Doing Unit := do
  for (name, outlet) in (← get).outlets do
    if let .command bytes := outlet then
      let _ ← finishCommand name bytes
  modify ({ · with outlets := [] })
  release

/-! ### Input -/

private def recordEnd : Doing RecordEnd := do
  let cs ← varChars "RS"
  match RecordEnd.ofText cs with
  | .ok e => return e
  | .error fault => runTimeFault (regexComplaint fault cs)

/-- The variable that an argument sets, and its value. -/
def setting? (s : String) : Option (String × Datum) :=
  match s.toList.span (· ≠ '=') with
  | (c :: name, _ :: value) =>
    if (c.isAlpha || c = '_') && name.all fun c => c.isAlphanum || c = '_' then
      let value := argumentChars (String.ofList value)
      some (String.ofList (c :: name), .input (escapesResolved value.length value))
    else none
  | _ => none

/-- Begin to read a file of the script. -/
private def openFile (name : String) : Doing Unit := do
  match ← act (if name = "/dev/stdin" then fileOrInput "-" else fileOrInput name) with
  | .error e => throw (.fault s!"cannot open {name} ({e.description})")
  | .ok bytes =>
    setVar "FILENAME" (.input (argumentChars name))
    setVar "FNR" (.ofNat 0)
    modify fun s => { s with current := some ⟨name, charsOf bytes⟩, hasFile := true }

/-- The next record of the files of the script. Arguments that set variables are heeded on the way. -/
private def nextRecord : (fuel : Nat) → Doing (Option (List Char))
  | 0 => return none
  | fuel + 1 => do
    let s ← get
    match s.current with
    | some reader =>
      match (← recordEnd).next? reader.rest with
      | some (cs, rest) =>
        modify fun s => { s with current := some { reader with rest } }
        countUp "NR"
        countUp "FNR"
        return some cs
      | none =>
        modify ({ · with current := none })
        nextRecord fuel
    | none =>
      let count := wholeOf (← varNumber "ARGC")
      if (s.argument : Int) < count then
        set { s with argument := s.argument + 1 }
        let arguments ← table (← tableNumber "ARGV")
        let argument ← match arguments.get? (toString s.argument).toList with
          | some d => charsOfDatum d
          | none => pure []
        let argument := textOf (bytesOfChars argument)
        if argument = "" then nextRecord fuel
        else match setting? argument with
          | some (name, d) =>
            setName name d
            nextRecord fuel
          | none =>
            openFile argument
            nextRecord fuel
      else if s.hasFile then return none
      else
        openFile "-"
        nextRecord fuel

/-- How often one looks for a record at most. -/
private def lookLimit : Doing Nat := do
  return (wholeOf (← varNumber "ARGC")).toNat * 2 + 10

/-- The reader of a file or of a command's output; `none` if there is no such file. -/
private def reader? (origin : Origin) (name : String) : Doing (Option Reader) := do
  let s ← get
  match s.readers.find? (·.name == name) with
  | some r => return some r
  | none =>
    let bytes ← match origin with
      | .file => do
        match ← act (fileOrInput (if name = "/dev/stdin" then "-" else name)) with
        | .ok bytes => pure (some bytes)
        | .error _ => pure none
      | .command => do
        release
        let (_, bytes) ← act (captured (launchOutcome s.launch (shellWords name)))
        pure (some bytes)
    match bytes with
    | none => return none
    | some bytes =>
      let r : Reader := ⟨name, charsOf bytes⟩
      modify fun s => { s with readers := r :: s.readers }
      return some r

/-- The next record from elsewhere, or what is given instead. -/
private def recordFrom (origin : Origin) (name : String) : Doing (Except Int (List Char)) := do
  match ← reader? origin name with
  | none => return .error (-1)
  | some r =>
    match (← recordEnd).next? r.rest with
    | none => return .error 0
    | some (cs, rest) =>
      modify fun s => { s with readers := s.readers.map fun q => if q.name = name then { q with rest } else q }
      return .ok cs

/-! ### Numbers and texts -/

/-- The rest of a division, with the sign of the first number. -/
private def remainder (x y : Double) : Double :=
  match x.fraction?, y.fraction? with
  | some (a, b), some (c, d) =>
    if c = 0 then .nan
    else
      let n := (a * d).tmod (c * b)
      .round x.isNegative n.natAbs (b * d)
  | some _, none => if y = .nan then .nan else x
  | _, _ => .nan

private def quotient (x y : Double) : Double :=
  if y.isZero && !x.isZero && x ≠ .nan then .infinite (x.isNegative != y.isNegative) else x.div y

private def calculate (op : Operator) (x y : Double) : Double :=
  match op with
  | .plus => x.add y
  | .minus => x.add y.neg
  | .times => x.mul y
  | .over => quotient x y
  | .rest => remainder x y
  | .power => x.raised y

/-- A part of a text: from a place, counted from one, and of a length. -/
private def partOf (cs : List Char) (start : Double) (length : Option Double) : List Char :=
  let start := wholeOf start
  let stop : Int := match length with
    | some n => start + wholeOf n
    | none => cs.length + 1
  let first := (max start 1).toNat
  (cs.drop (first - 1)).take (stop - first).toNat

/-- The place of a text in another one, counted from one. -/
private def placeIn (part : List Char) : (place : Nat) → List Char → Nat
  | place, [] => if part.isEmpty then place else 0
  | place, c :: cs => if part.isPrefixOf (c :: cs) then place else placeIn part (place + 1) cs

/-- What is put in the place of a match: an ampersand stands for the match, unless a backslash is
before it. -/
private def filled (found : List Char) : List Char → List Char
  | '\\' :: '\\' :: '&' :: rest => '\\' :: found ++ filled found rest
  | '\\' :: '&' :: rest => '&' :: filled found rest
  | '&' :: rest => found ++ filled found rest
  | c :: rest => c :: filled found rest
  | [] => []

/-- A text with matches replaced. -/
private def replaced (new : List Char) (ms : List Regex.Match) (cs : List Char) : List Char :=
  let (parts, rest) := ms.foldl (fun ((found, rest) : List (List Char) × List Char) m =>
    let before := rest.take (rest.length - m.start.rest.length)
    ((before ++ filled m.text new) :: found, m.stop.rest)) ([], cs)
  parts.reverse.flatten ++ rest

/-- Values by a format, as far as they can be written, and what is wrong. -/
private def format (format : List Char) (values : List Datum) (name : String) :
    Doing (List Char × Option String) := do
  let plain := numberChars (← conversion)
  let (written, fault) := formatted plain (format.length + 1) 0 format values
  let shown := String.ofList format
  let shown := name ++ "(\"" ++ shown ++ "\")"
  return (written, fault.map fun
    | .missingValue => s!"not enough arguments passed to {shown}"
    | .badConversion n => s!"improper conversion(number {n}) in {shown}")

/-! ### Expressions and statements -/

/-- What gives expressions their values and carries out statements. -/
structure Evaluator where
  value : Expr → Doing Datum
  run : Statement → Doing Unit

namespace Evaluator

private def chars (e : Evaluator) (x : Expr) : Doing (List Char) := do charsOfDatum (← e.value x)

private def number (e : Evaluator) (x : Expr) : Doing Double := return (← e.value x).value

/-- A file or a command by its name. -/
private def name (e : Evaluator) (x : Expr) : Doing String := do
  return textOf (bytesOfChars (← e.chars x))

/-- The key that expressions stand for. -/
private def key (e : Evaluator) : List Expr → Doing (List Char × Bool)
  | [x] => do keyOf (← e.value x)
  | xs => do
    let parts ← xs.mapM e.chars
    return ((← varChars "SUBSEP").intercalate parts, false)

/-- The expression that a value stands for as a pattern. -/
private def pattern (e : Evaluator) : Expr → Doing Regex
  | .regex r => return r
  | x => do compiled (← e.chars x)

/-- Assign to what an expression stands for. -/
private def assign (e : Evaluator) (target : Expr) (d : Datum) : Doing Unit := do
  match target with
  | .name n => setName n d
  | .field x => setField (← fieldNumber (← e.value x)) d
  | .element array key =>
    let (key, isCounted) ← e.key key
    setElement (← tableNumber array) key isCounted d
  | _ => return

/-- Read a record into what is named, or into the record itself. -/
private def readInto (e : Evaluator) (target : Option Expr) (cs : List Char) : Doing Unit := do
  match target with
  | some t => e.assign t (.input cs)
  | none => setRecord cs

/-- Replace matches in what an expression stands for; gives their number. -/
private def replace (e : Evaluator) (all : Bool) (pattern new : Expr) (target : Expr) : Doing Datum := do
  let r ← e.pattern pattern
  let new ← e.chars new
  let cs ← e.chars target
  let ms := if all then Regex.matchesIn [r] cs else (Regex.find? [r] ⟨[], cs, []⟩).toList
  unless ms.isEmpty do e.assign target (.text (replaced new ms cs))
  return .ofNat ms.length

/-- Cut a text into a table; gives the number of parts. -/
private def split (e : Evaluator) (x : Expr) (array : String) (separator : Option Expr) :
    Doing Datum := do
  let cs ← e.chars x
  let separator ← match separator with
    | none => separatorOf (← varChars "FS")
    | some (.regex r) => pure (.regex r)
    | some s => separatorOf (← e.chars s)
  let parts := separator.parts false cs
  setTable (← tableNumber array) (.ofParts (parts.map .input))
  return .ofNat parts.length

/-- A function of one number. -/
private def ofNumber (e : Evaluator) (f : Double → Double) (xs : List Expr) : Doing Datum := do
  match xs with
  | [x] => return .number (f (← e.number x))
  | _ => return .unset

private def routine (e : Evaluator) (r : Routine) (xs : List Expr) : Doing Datum := do
  match r, xs with
  | .length, [] => return .ofNat (← get).record.length
  | .length, [.name n] =>
    match ← table? n with
    | some t => return .ofNat (← table t).entries.length
    | none => return .ofNat (← e.chars (.name n)).length
  | .length, [x] => return .ofNat (← e.chars x).length
  | .index, [x, y] =>
    let cs ← e.chars x
    return .ofNat (placeIn (← e.chars y) 1 cs)
  | .substr, [x, start] =>
    let cs ← e.chars x
    return .text (partOf cs (← e.number start) none)
  | .substr, [x, start, length] =>
    let cs ← e.chars x
    let start ← e.number start
    return .text (partOf cs start (some (← e.number length)))
  | .split, [x, .name array] => e.split x array none
  | .split, [x, .name array, s] => e.split x array (some s)
  | .sub, [p, new] => e.replace false p new (.field (.number (.ofInt 0)))
  | .sub, [p, new, target] => e.replace false p new target
  | .gsub, [p, new] => e.replace true p new (.field (.number (.ofInt 0)))
  | .gsub, [p, new, target] => e.replace true p new target
  | .matchOf, [x, p] =>
    let cs ← e.chars x
    let (start, length) := match Regex.find? [← e.pattern p] ⟨[], cs, []⟩ with
      | some m => (((cs.length - m.start.rest.length + 1 : Nat) : Int), (m.text.length : Int))
      | none => (0, -1)
    setVar "RSTART" (.number (.ofInt start))
    setVar "RLENGTH" (.number (.ofInt length))
    return .number (.ofInt start)
  | .sprintf, f :: values =>
    let f ← e.chars f
    let (written, fault) ← format f (← values.mapM e.value) "sprintf"
    match fault with
    | some message => runTimeFault message
    | none => return .text written
  | .toupper, [x] => return .text ((← e.chars x).map Char.toUpper)
  | .tolower, [x] => return .text ((← e.chars x).map Char.toLower)
  | .int, xs => e.ofNumber (fun x => (x.truncate?.map Double.ofInt).getD x) xs
  | .sqrt, xs => e.ofNumber Double.squareRoot xs
  | .exp, xs => e.ofNumber Double.exp xs
  | .log, xs => e.ofNumber Double.logarithm xs
  | .sin, xs => e.ofNumber Double.sine xs
  | .cos, xs => e.ofNumber Double.cosine xs
  | .atan2, [y, x] =>
    let y ← e.number y
    return .number (y.arcTangent (← e.number x))
  | .rand, _ =>
    let s ← get
    let seed := (s.seed * 1103515245 + 12345) % twoTo 31
    set { s with seed }
    return .number ((Double.ofInt seed).div (.ofInt (twoTo 31)))
  | .srand, xs =>
    let seed ← match xs with
      | [x] => pure (wholeOf (← e.number x)).toNat
      | _ => pure 0
    let s ← get
    set { s with seed }
    return .ofNat s.seed
  | .system, [x] =>
    let command ← e.name x
    release
    return .ofNat (← runCommand command)
  | .close, [x] => return .number (.ofInt (← close (← e.name x)))
  | .fflush, _ =>
    release
    return .ofNat 0
  | _, _ => return .unset

/-- What the parameters of a procedure stand for: tables are handed over as such, and so is a name that
has no value yet, with the name beside it. -/
private def bind (e : Evaluator) : List String → List Expr →
    Doing (List (String × Local × Option String))
  | [], _ => return []
  | p :: ps, [] => do
    let n ← newTable {}
    return (p, .open n, none) :: (← bind e ps [])
  | p :: ps, .name n :: xs => do
    let s ← get
    let bound : Local × Option String ← match s.locals.get? n with
      | some (.open t) => pure (.open t, some n)
      | some l => pure (l, none)
      | none =>
        match s.tableNames.get? n, s.vars.get? n with
        | some t, _ => pure (.table t, none)
        | none, some d => pure (.value d, none)
        | none, none =>
          if n = "NF" then pure (.value (.ofNat s.fields.length), none)
          else pure (.open (← newTable {}), some n)
    return (p, bound.1, bound.2) :: (← bind e ps xs)
  | p :: ps, x :: xs => do
    let d ← e.value x
    return (p, .value d, none) :: (← bind e ps xs)

/-- A name that was handed over without a value is a table if the procedure has used it as one. -/
private def handBack (inside : Fields Local) : List (String × Local × Option String) → Doing Unit
  | [] => return
  | (p, _, some n) :: rest => do
    if let some (.table t) := inside.get? p then
      let s ← get
      match s.locals.get? n with
      | some (.open _) => set { s with locals := s.locals.set n (.table t) }
      | some _ => pure ()
      | none =>
        if (s.tableNames.get? n).isNone then set { s with tableNames := s.tableNames.set n t }
    handBack inside rest
  | _ :: rest => handBack inside rest

/-- Carry out a procedure. -/
private def call (e : Evaluator) (name : String) (xs : List Expr) : Doing Datum := do
  match (← get).procedures.find? (·.name == name) with
  | none => runTimeFault s!"function {name} never defined"
  | some p =>
    let bound ← e.bind p.parameters xs
    let outside := (← get).locals
    modify ({ · with locals := bound.map fun b => (b.1, b.2.1) })
    let given ← tryCatch (do e.run p.body; pure Datum.unset) fun
      | .giveBack d => pure d
      | other => throw other
    let inside := (← get).locals
    modify ({ · with locals := outside })
    handBack inside bound
    return given

/-- Read a record; gives 1, 0 at the end, or -1. -/
private def readRecord (e : Evaluator) (target : Option Expr) (source : Option (Origin × Expr)) :
    Doing Datum := do
  match source with
  | none =>
    match ← nextRecord (← lookLimit) with
    | none => return .ofNat 0
    | some cs =>
      e.readInto target cs
      return .ofNat 1
  | some (origin, x) =>
    match ← recordFrom origin (← e.name x) with
    | .error n => return .number (.ofInt n)
    | .ok cs =>
      e.readInto target cs
      return .ofNat 1

/-- The value of an expression. -/
private def valueOf (e : Evaluator) : Expr → Doing Datum
  | .number x => return .number x
  | .text s => return .text s
  | .regex r => return .ofBool (Regex.find? [r] ⟨[], (← get).record, []⟩).isSome
  | .name n => nameValue n
  | .field x => do field (← fieldNumber (← e.value x))
  | .element array key => do
    let (key, isCounted) ← e.key key
    element (← tableNumber array) key isCounted
  | .assign target x => do
    let d ← e.value x
    e.assign target d
    return d
  | .update op target x => do
    let y ← e.number x
    let d := Datum.number (calculate op (← e.number target) y)
    e.assign target d
    return d
  | .step givesNew up target => do
    let old ← e.number target
    let new := old.add (.ofInt (if up then 1 else -1))
    e.assign target (.number new)
    return .number (if givesNew then new else old)
  | .choose c x y => do if (← e.value c).isTrue then e.value x else e.value y
  | .both x y => do
    if (← e.value x).isTrue then return .ofBool (← e.value y).isTrue else return .ofBool false
  | .either x y => do
    if (← e.value x).isTrue then return .ofBool true else return .ofBool (← e.value y).isTrue
  | .negation x => return .ofBool (!(← e.value x).isTrue)
  | .sign isMinus x => do
    let y ← e.number x
    return .number (if isMinus then y.neg else y)
  | .arithmetic op x y => do
    let a ← e.number x
    return .number (calculate op a (← e.number y))
  | .compare c x y => do
    let a ← e.value x
    let b ← e.value y
    return .ofBool (c.holds (a.order (← conversion) b))
  | .join x y => do
    let a ← e.chars x
    return .text (a ++ (← e.chars y))
  | .hasMatch negated x p => do
    let cs ← e.chars x
    return .ofBool (negated != (Regex.find? [← e.pattern p] ⟨[], cs, []⟩).isSome)
  | .isIn key array => do
    let (key, isCounted) ← e.key key
    let n ← tableNumber array
    let t := (← table n).touch key isCounted false
    setTable n t
    return .ofBool (t.get? key).isSome
  | .group [x] => e.value x
  | .group xs => do return .text (← e.key xs).1
  | .routine r xs => e.routine r xs
  | .call name xs => e.call name xs
  | .readRecord target source => e.readRecord target source

/-- Write to where a statement says. -/
private def write (e : Evaluator) (target : Option (Route × Expr)) (cs : List Char) : Doing Unit := do
  match target with
  | none => keep (bytesOfChars cs)
  | some (route, x) => send route (← e.name x) (bytesOfChars cs)

/-- The body of a loop; gives whether the loop goes on. -/
private def round (e : Evaluator) (body : Statement) : Doing Bool :=
  tryCatch (do e.run body; pure true) fun
    | .leave => pure false
    | .again => pure true
    | other => throw other

/-- A loop that has gone through this many rounds is taken to go on for ever. -/
def maxRounds : Nat := 100000

private def loop (e : Evaluator) (condition : Option Expr) (step body : Statement) :
    (rounds : Nat) → Doing Unit
  | 0 => act (throw .timedOut)
  | rounds + 1 => do
    let goesOn ← match condition with
      | some c => pure (← e.value c).isTrue
      | none => pure true
    if goesOn then
      if ← e.round body then
        e.run step
        loop e condition step body rounds

/-- The body of a loop for each key that is still there. -/
private def throughKeys (e : Evaluator) (name : String) (body : Statement) : List (List Char) → Doing Unit
  | [] => return
  | key :: rest => do
    setName name (.text key)
    if ← e.round body then throughKeys e name body rest

/-- Carry out a statement. -/
private def perform (e : Evaluator) : Statement → Doing Unit
  | .compute x => do let _ ← e.value x
  | .print xs target => do
    let number ← varChars "OFMT"
    let parts ← if xs.isEmpty then pure [(← get).record] else
      xs.mapM fun x => return (← e.value x).chars number
    let line := (← varChars "OFS").intercalate parts ++ (← varChars "ORS")
    e.write target line
  | .printf xs target => do
    let xs := match xs with
      | [.group inner] => inner
      | xs => xs
    match xs with
    | [] => return
    | f :: values =>
      let f ← e.chars f
      let (written, fault) ← format f (← values.mapM e.value) "printf"
      e.write target written
      if let some message := fault then runTimeFault message
  | .block parts => parts.forM e.run
  | .branch c first second => do if (← e.value c).isTrue then e.run first else e.run second
  | .loop c body => e.loop (some c) (.block []) body maxRounds
  | .loopOnce body c => do
    if ← e.round body then e.loop (some c) (.block []) body maxRounds
  | .count start c step body => do
    e.run start
    e.loop c step body maxRounds
  | .forKeys name array body => do
    let n ← tableNumber array
    let t := (← table n).withTexts
    setTable n t
    e.throughKeys name body t.keys
  | .leave => throw .leave
  | .again => throw .again
  | .next => throw .next
  | .nextFile => throw .nextFile
  | .exit none => throw (.exit none)
  | .exit (some x) => do throw (.exit (some ((wholeOf (← e.number x)).emod 256).toNat))
  | .giveBack none => throw (.giveBack .unset)
  | .giveBack (some x) => do throw (.giveBack (← e.value x))
  | .delete array none => do setTable (← tableNumber array) {}
  | .delete array (some key) => do
    let (key, _) ← e.key key
    let n ← tableNumber array
    setTable n ((← table n).erase key)

end Evaluator

/-- The evaluator with a supply of nesting. -/
def evaluator : (fuel : Nat) → Evaluator
  | 0 => ⟨fun _ => act (throw .timedOut), fun _ => act (throw .timedOut)⟩
  | fuel + 1 => ⟨fun x => (evaluator fuel).valueOf x, fun s => (evaluator fuel).perform s⟩

/-! ### Whole scripts -/

/-- Whether the action of a rule is for the record, and whether the rule is within its range after it. -/
private def applies (e : Evaluator) (isWithin : Bool) : Pattern → Doing (Bool × Bool)
  | .always => return (true, false)
  | .start | .finish => return (false, false)
  | .condition x => return ((← e.value x).isTrue, false)
  | .range first last => do
    if isWithin || (← e.value first).isTrue then return (true, !(← e.value last).isTrue)
    else return (false, false)

private def actOn (e : Evaluator) (r : Rule) : Doing Unit :=
  match r.action with
  | some s => e.run s
  | none => e.run (.print [] none)

/-- Let all rules look at the record. -/
private def applyRules (e : Evaluator) : (number : Nat) → List Rule → Doing Unit
  | _, [] => return
  | number, r :: rest => do
    let isWithin := ((← get).within[number]?).getD false
    let (isFor, stays) ← applies e isWithin r.pattern
    modify fun s => { s with within := s.within.set number stays }
    if isFor then actOn e r
    applyRules e (number + 1) rest

/-- Go through all records. -/
private def throughRecords (e : Evaluator) (rules : List Rule) : (rounds : Nat) → Doing Unit
  | 0 => return
  | rounds + 1 => do
    match ← nextRecord (← lookLimit) with
    | none => return
    | some cs =>
      setRecord cs
      tryCatch (applyRules e 0 rules) fun
        | .next => pure ()
        | .nextFile => modify ({ · with current := none })
        | other => throw other
      throughRecords e rules rounds

/-- The actions for the start or the end. -/
private def edgeActions (e : Evaluator) (isFinish : Bool) (rules : List Rule) : Doing Unit :=
  rules.forM fun r =>
    match r.pattern, isFinish with
    | .start, false | .finish, true => actOn e r
    | _, _ => pure ()

/-- The most records that a script goes through. -/
private def maxRecords : Nat := 1000000

private def isEdge (r : Rule) : Bool := r.pattern matches .start | .finish

/-- An activity and whether it ended with a request to exit, with the status that it asked for. -/
private def untilExit (a : Doing Unit) : Doing (Option (Option Nat)) :=
  tryCatch (do a; pure none) fun
    | .exit status => pure (some status)
    | .leave | .again | .next | .nextFile | .giveBack _ => pure none
    | .fault m => throw (.fault m)

/-- Carry out a script: its exit status. A request to exit leads to the actions for the end, and within
these to the end. -/
def RuleSet.run (script : RuleSet) (nesting : Nat) : Doing Nat := do
  let e := evaluator nesting
  modify ({ · with within := script.rules.map fun _ => false })
  let finishes := script.rules.any (·.pattern matches .finish)
  let exited ← untilExit do
    edgeActions e false script.rules
    if finishes || script.rules.any (!isEdge ·) then throughRecords e script.rules maxRecords
  let exitedLate ← untilExit (edgeActions e true script.rules)
  let status := match exitedLate, exited with
    | some (some n), _ => n
    | _, some (some n) => n
    | _, _ => 0
  finishOutput
  return status

end StepFlow.Shell.Rules

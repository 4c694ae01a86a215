import StepFlow.Shell.Programs.Difference
import StepFlow.Shell.Programs.Walk

/-!
# Comparing files

Programs that tell whether files are equal, byte by byte or line by line, and where they differ.

## Main definitions

* `cmp` — the first byte that differs
* `diff` — the lines that differ
-/

namespace StepFlow.Shell

/-- A comparison that is misused. -/
private def comparisonMisused (st : Streams) (name complaint : String) : Acting Nat := do
  emitText st.err (s!"{name}: {complaint}\n{name}: " ++ helpHint name)
  return 2

/-- The bytes of a file, or what is said of it if it cannot be read. -/
private def comparedFile (name file : String) : Acting (Except String (List UInt8)) := do
  match ← fileOrInput file with
  | .ok bytes => return .ok bytes
  | .error e => return .error s!"{name}: {file}: {e.description}\n"

/-! ### Bytes -/

/-- A byte in octal digits, in three columns. -/
private def octalColumn (b : UInt8) : String :=
  let digits := Nat.toDigits 8 b.toNat
  String.ofList (List.replicate (3 - digits.length) ' ' ++ digits)

/-- A byte that can be seen: control characters behind a circumflex, the upper half behind `M-`. -/
private def visibleByte (b : UInt8) : String :=
  let low (n : Nat) : String :=
    if n < 32 then "^" ++ String.ofList [Char.ofNat (n + 64)]
    else if n = 127 then "^?" else String.ofList [Char.ofNat n]
  if b.toNat < 128 then low b.toNat else "M-" ++ low (b.toNat - 128)

/-- The positions at which bytes differ, from 0 on, with the bytes. -/
private def differingBytes (a b : List UInt8) : List (Nat × UInt8 × UInt8) :=
  ((a.zip b).zipIdx.filter fun ((x, y), _) => x ≠ y).map fun ((x, y), i) => (i, x, y)

private def lineEnds (bytes : List UInt8) : Nat := (bytes.filter (· = lineFeed)).length

private def cmpOptions : List ProgramOption :=
  flags [["b", "print-bytes"], ["l", "verbose"], ["s", "quiet", "silent"]]
    ++ valued [["i", "ignore-initial"], ["n", "bytes"]]

/-- The first position at which files differ. -/
def cmp : Program := fun st args => do
  match (OptionSet.mk cmpOptions false).read args with
  | .error complaint => comparisonMisused st "cmp" complaint
  | .ok g =>
    match g.operands with
    | [] => comparisonMisused st "cmp" "missing operand after 'cmp'"
    | first :: rest =>
      let second := rest.headD "-"
      let skips := (((g.value? "i").getD "0").splitOn ":").map amount?
      let limit := (g.value? "n") >>= amount?
      let cut (which : Nat) (bytes : List UInt8) : List UInt8 :=
        let skip := ((skips[which]?).getD (skips.headD none)).getD 0
        let bytes := bytes.drop skip
        (limit.map bytes.take).getD bytes
      match ← comparedFile "cmp" first, ← comparedFile "cmp" second with
      | .error message, _ | _, .error message =>
        unless g.has "s" do emitText st.err message
        return 2
      | .ok a, .ok b =>
        let a := cut 0 a
        let b := cut 1 b
        let differing := differingBytes a b
        let isCut := a.length ≠ b.length
        if g.has "s" then return if differing.isEmpty && !isCut then 0 else 1
        let shorter := if a.length < b.length then a else b
        let detail (x y : UInt8) : String :=
          octalColumn x ++ " " ++ visibleByte x ++ " " ++ octalColumn y ++ " " ++ visibleByte y
        if g.has "l" then
          let width := (toString (max 1 (min a.length b.length))).length
          for (i, x, y) in differing do
            let shown :=
              if g.has "b" then
                let left := visibleByte x
                octalColumn x ++ " " ++ left ++ String.ofList (List.replicate (4 - left.length) ' ')
                  ++ " " ++ octalColumn y ++ " " ++ visibleByte y
              else octalColumn x ++ " " ++ octalColumn y
            emitText st.out (aligned width (i + 1) ++ " " ++ shown ++ "\n")
        else if let (i, x, y) :: _ := differing then
          let line := lineEnds (a.take i) + 1
          let position := i + 1
          if g.has "b" then
            let shown := detail x y
            emitText st.out s!"{first} {second} differ: byte {position}, line {line} is {shown}\n"
          else emitText st.out s!"{first} {second} differ: char {position}, line {line}\n"
          return 1
        if isCut then
          let name := if a.length < b.length then first else second
          let n := shorter.length
          let ends := lineEnds shorter
          let place :=
            if n = 0 then " which is empty"
            else if g.has "l" then s!" after byte {n}"
            else if shorter.getLast? = some lineFeed then s!" after byte {n}, line {ends}"
            else s!" after byte {n}, in line {ends + 1}"
          emitText st.err (s!"cmp: EOF on {name}" ++ place ++ "\n")
        return if differing.isEmpty && !isCut then 0 else 1

/-! ### Lines -/

/-- How lines are compared. -/
private structure LineEquality where
  foldsCase : Bool := false
  dropsBlanks : Bool := false
  joinsBlanks : Bool := false

/-- What counts of a line. -/
private def LineEquality.key (e : LineEquality) (line : List UInt8) : List UInt8 :=
  let line := if e.foldsCase then line.map lowerByte else line
  if e.dropsBlanks then line.filter (!isSpaceByte ·)
  else if e.joinsBlanks then
    let runs := (line.splitBy fun a b => isSpaceByte a = isSpaceByte b)
    let joined := runs.map fun run => if isSpaceByte (run.headD 0) then [32] else run
    (if joined.getLast? = some [32] then joined.dropLast else joined).flatten
  else line

/-- The lines of a file, and whether the last one has an end. -/
private structure ComparedLines where
  lines : List (List UInt8)
  ended : Bool

private def comparedLines (bytes : List UInt8) : ComparedLines :=
  ⟨linesOf bytes, bytes.isEmpty || bytes.getLast? = some lineFeed⟩

/-- A range of lines: `first` to `last`, one of them, or the line before an empty range. -/
private def rangeText (start count : Nat) : String :=
  if count ≤ 1 then toString (start + count) else s!"{start + 1},{start + count}"

/-- Lines behind a mark. -/
private def marked (mark : String) (c : ComparedLines) (start count : Nat) : List UInt8 :=
  (List.range count).flatMap fun i =>
    let line := (c.lines[start + i]?).getD []
    let isLast := start + i + 1 = c.lines.length
    bytesOf mark ++ line ++ [lineFeed]
      ++ (if isLast && !c.ended then bytesOf "\\ No newline at end of file\n" else [])

/-- Changes as commands that make the second file of the first. -/
private def plainChanges (a b : ComparedLines) (changes : List LineChange) : List UInt8 :=
  changes.flatMap fun c =>
    let verb := if c.oldCount = 0 then "a" else if c.newCount = 0 then "d" else "c"
    bytesOf (rangeText c.oldStart c.oldCount ++ verb ++ rangeText c.newStart c.newCount ++ "\n")
      ++ marked "< " a c.oldStart c.oldCount
      ++ (if verb = "c" then bytesOf "---\n" else [])
      ++ marked "> " b c.newStart c.newCount

/-- Changes in groups whose lines of context touch each other. -/
private def grouped (context : Nat) : List LineChange → List (List LineChange)
  | [] => []
  | c :: rest =>
    match grouped context rest with
    | (next :: more) :: groups =>
      if next.oldStart ≤ c.oldStart + c.oldCount + 2 * context then (c :: next :: more) :: groups
      else [c] :: (next :: more) :: groups
    | groups => [c] :: groups

/-- A range of lines in the head of a group. -/
private def headRange (start count : Nat) : String :=
  if count = 1 then toString (start + 1)
  else if count = 0 then s!"{start},0" else s!"{start + 1},{count}"

/-- The lines of a group: those that are kept stand between the changes. -/
private def groupLines (a b : ComparedLines) : (old stop : Nat) → List LineChange → List UInt8
  | old, stop, [] => marked " " a old (stop - old)
  | old, stop, c :: rest =>
    marked " " a old (c.oldStart - old) ++ marked "-" a c.oldStart c.oldCount
      ++ marked "+" b c.newStart c.newCount
      ++ groupLines a b (c.oldStart + c.oldCount) stop rest

/-- Changes with lines of context around them. -/
private def unifiedChanges (context : Nat) (a b : ComparedLines) (changes : List LineChange) : List UInt8 :=
  (grouped context changes).flatMap fun group =>
    let first := group.headD default
    let last := (group.getLast?).getD default
    let before := min context first.oldStart
    let behind := min context (a.lines.length - (last.oldStart + last.oldCount))
    let oldStart := first.oldStart - before
    let newStart := first.newStart - before
    let oldCount := last.oldStart + last.oldCount + behind - oldStart
    let newCount := last.newStart + last.newCount + behind - newStart
    bytesOf s!"@@ -{headRange oldStart oldCount} +{headRange newStart newCount} @@\n"
      ++ groupLines a b oldStart (oldStart + oldCount) group

private def diffOptions : List ProgramOption :=
  flags [["q", "brief"], ["s", "report-identical-files"], ["u"], ["r", "recursive"], ["N", "new-file"],
      ["i", "ignore-case"], ["w", "ignore-all-space"], ["b", "ignore-space-change"],
      ["B", "ignore-blank-lines"], ["a", "text"], ["d", "minimal"], ["p", "show-c-function"], ["normal"],
      ["t", "expand-tabs"], ["T", "initial-tab"]]
    ++ valued [["U"], ["label", "L"], ["x", "exclude"]] ++ optionallyValued [["unified"], ["color"]]

/-- How files are compared, and how that is reported. -/
private structure Comparison where
  equality : LineEquality
  ignoresBlankLines : Bool
  /-- Lines of context; without them changes are plain. -/
  context : Option Nat
  brief : Bool
  reportsEqual : Bool
  recursive : Bool
  takesMissing : Bool
  labels : List String
  /-- The options as they were given. -/
  options : List String

/-- The head of changes with context. -/
private def headLines (c : Comparison) (first second : String) : String :=
  let unknownTime := "\t1970-01-01 00:00:00.000000000 +0000"
  let old := (c.labels[0]?).getD (first ++ unknownTime)
  let new := (c.labels[1]?).getD (second ++ unknownTime)
  s!"--- {old}\n+++ {new}\n"

/-- Compare the bytes of two files. -/
private def compareContents (st : Streams) (c : Comparison) (heading first second : String)
    (x y : List UInt8) : Acting Nat := do
  let equal : Acting Nat := do
    if c.reportsEqual then emitText st.out s!"Files {first} and {second} are identical\n"
    return 0
  if x = y then return ← equal
  let a := comparedLines x
  let b := comparedLines y
  -- The last line counts as another one if only one of both has an end.
  let keys (l : ComparedLines) : List (List UInt8 × Bool) :=
    let isLoose := !c.equality.dropsBlanks && !c.equality.joinsBlanks
    l.lines.zipIdx.map fun (line, i) =>
      (c.equality.key line, isLoose && !l.ended && i + 1 = l.lines.length)
  let changes := (changesBetween (keys a) (keys b)).filter fun change =>
    !c.ignoresBlankLines || !(((a.lines.drop change.oldStart).take change.oldCount
      ++ (b.lines.drop change.newStart).take change.newCount).all (·.isEmpty))
  if changes.isEmpty then equal
  else if x.contains 0 || y.contains 0 then
    emitText st.out s!"Binary files {first} and {second} differ\n"
    return 2
  else if c.brief then
    emitText st.out s!"Files {first} and {second} differ\n"
    return 1
  else
    emitText st.out heading
    match c.context with
    | some n =>
      emitText st.out (headLines c first second)
      emit st.out (unifiedChanges n a b changes)
    | none => emit st.out (plainChanges a b changes)
    return 1

/-- Compare two files or directories. -/
private def comparePaths (st : Streams) (c : Comparison) : (fuel : Nat) → (within : Bool) →
    (first second : String) → Acting Nat
  | 0, _, _, _ => return 2
  | fuel + 1, within, first, second => do
    let s ← get
    let isDirectory (name : String) : Bool := name ≠ "-" && s.files.isDirectory s.here name
    let heading := if within then " ".intercalate ("diff" :: c.options ++ [first, second]) ++ "\n" else ""
    if isDirectory first && isDirectory second then
      if within && !c.recursive then
        emitText st.out s!"Common subdirectories: {first} and {second}\n"
        return 0
      let namesIn (d : String) : List String := (s.files.list s.here d).toOption.getD []
      let olds := namesIn first
      let news := namesIn second
      let mut worst := 0
      for name in sortedTexts (olds ++ news.filter (!olds.contains ·)) do
        let isMissing := !olds.contains name || !news.contains name
        if isMissing && !c.takesMissing then
          let place := if olds.contains name then first else second
          emitText st.out s!"Only in {place}: {name}\n"
          worst := max worst 1
        else
          worst := max worst
            (← comparePaths st c fuel true (Glob.joined first name) (Glob.joined second name))
      return worst
    else if within && (isDirectory first || isDirectory second) then
      let (directory, file) := if isDirectory first then (first, second) else (second, first)
      emitText st.out s!"File {directory} is a directory while file {file} is a regular file\n"
      return 1
    else
      let lastName (p : String) : String := ((p.splitOn "/").getLast?).getD p
      let (first, second) :=
        if isDirectory first then (Glob.joined first (lastName second), second)
        else if isDirectory second then (first, Glob.joined second (lastName first))
        else (first, second)
      let readOr (name : String) : Acting (Except String (List UInt8)) := do
        match ← comparedFile "diff" name with
        | .ok bytes => return .ok bytes
        | .error message =>
          if c.takesMissing && !s.files.exists? s.here name then return .ok [] else return .error message
      let x ← readOr first
      let y ← readOr second
      match x, y with
      | .ok x, .ok y => compareContents st c heading first second x y
      | x, y =>
        for problem in [x, y] do
          if let .error message := problem then emitText st.err message
        return 2

/-- Show the lines in which files differ. -/
def diff : Program := fun st args => do
  match (OptionSet.mk diffOptions false).read args with
  | .error complaint => comparisonMisused st "diff" complaint
  | .ok g =>
    let context := match g.last? ["u", "U", "unified", "normal"] with
      | some "u" => some 3
      | some "U" => some ((g.value? "U" >>= natOf?).getD 3)
      | some "unified" => some ((g.value? "unified" >>= natOf?).getD 3)
      | _ => none
    match g.operands with
    | [first, second] =>
      let depth := depthOf (← get).files
      comparePaths st
        { equality := ⟨g.has "i", g.has "w", g.has "b"⟩
          ignoresBlankLines := g.has "B"
          context
          brief := g.has "q"
          reportsEqual := g.has "s"
          recursive := g.has "r"
          takesMissing := g.has "N"
          labels := g.values "label"
          options := args.filter fun a => a.toList.head? = some '-' && a ≠ "-" }
        (depth + 2) false first second
    | _ :: _ :: extra :: _ =>
      let shown := quotedPhrase extra
      comparisonMisused st "diff" s!"extra operand {shown}"
    | names =>
      let last := quotedPhrase (names.getLast?.getD "diff")
      comparisonMisused st "diff" s!"missing operand after {last}"

end StepFlow.Shell

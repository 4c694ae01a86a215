import StepFlow.Shell.Programs.Options

/-!
# Programs that show files

Programs that show files or their input: the whole, the beginning or the end, with numbers, in
reverse, in short lines; and counts of what is in them.

## Main definitions

* `cat`, `tac`, `rev`, `nl`, `fold`
* `head`, `tail`
* `wc`
* `tee`
-/

namespace StepFlow.Shell

/-! ### Whole files -/

/-- Bytes that show a byte that is no character of its own: with a caret, and with `M-` for those
above 127. -/
def visible (b : UInt8) : List UInt8 :=
  let low (n : UInt8) : List UInt8 :=
    if n < 32 then [94, n + 64] else if n = 127 then [94, 63] else [n]
  if 128 ≤ b then 77 :: 45 :: low (b - 128) else low b

/-- How lines are shown. -/
private structure LineStyle where
  numbersAll : Bool
  numbersFilled : Bool
  marksEnds : Bool
  marksTabs : Bool
  showsControls : Bool
  squeezes : Bool

/-- What goes on from one line to the next: the number of the next line, whether a line begins, and
whether the line before was blank. -/
private structure LineCount where
  next : Nat := 1
  atStart : Bool := true
  wasBlank : Bool := false

private def shownByte (style : LineStyle) (b : UInt8) : List UInt8 :=
  if b = 9 then if style.marksTabs then [94, 73] else [9]
  else if style.showsControls then visible b else [b]

/-- A line as it is shown. -/
private def shownLine (style : LineStyle) (count : LineCount) (line : List UInt8) :
    List UInt8 × LineCount :=
  let isWhole := line.getLast? = some lineFeed
  let body := if isWhole then line.dropLast else line
  let isBlank := count.atStart && line = [lineFeed]
  if isBlank && style.squeezes && count.wasBlank then ([], count)
  else
    let numbered := count.atStart && (style.numbersAll || style.numbersFilled && !isBlank)
    let number := if numbered then bytesOf (aligned 6 count.next ++ "\t") else []
    let returns := isWhole && style.marksEnds && body.getLast? = some 13
    let shown := (if returns then body.dropLast else body).flatMap (shownByte style)
    let tail := (if returns then [94, 77] else [])
      ++ (if isWhole then (if style.marksEnds then [36, lineFeed] else [lineFeed]) else [])
    (number ++ shown ++ tail,
      { next := if numbered then count.next + 1 else count.next, atStart := isWhole, wasBlank := isBlank })

private def shownLines (style : LineStyle) (count : LineCount) (lines : List (List UInt8)) :
    List UInt8 × LineCount :=
  lines.foldl (fun (bytes, count) l =>
    let (shown, count) := shownLine style count l
    (bytes ++ shown, count)) ([], count)

def cat : Program := withOptions "cat" 1
    (flags [["A", "show-all"], ["b", "number-nonblank"], ["e"], ["E", "show-ends"], ["n", "number"],
      ["s", "squeeze-blank"], ["t"], ["T", "show-tabs"], ["u"], ["v", "show-nonprinting"]])
    fun st g => do
  let style : LineStyle :=
    { numbersAll := g.has "n" && !g.has "b", numbersFilled := g.has "b"
      marksEnds := g.has "A" || g.has "e" || g.has "E", marksTabs := g.has "A" || g.has "t" || g.has "T"
      showsControls := g.has "A" || g.has "e" || g.has "t" || g.has "v", squeezes := g.has "s" }
  let plain := g.options.all (·.1 == "u")
  let mut count : LineCount := {}
  let mut complete := true
  for name in (if g.operands.isEmpty then ["-"] else g.operands) do
    match ← fileOrInput name with
    | .ok bs =>
      if plain then emit st.out bs
      else
        let (shown, after) := shownLines style count (fullLines bs)
        emit st.out shown
        count := after
    | .error e =>
      emitText st.err (missing "cat" name e ++ "\n")
      complete := false
  return statusOf complete

/-- The pieces that a separator ends, each with it; the last one may lack it. -/
def piecesWith (separator : List UInt8) : (fuel : Nat) → (piece : List UInt8) → List UInt8 →
    List (List UInt8)
  | 0, piece, _ | _, piece, [] => if piece.isEmpty then [] else [piece.reverse]
  | fuel + 1, piece, b :: rest =>
    match separator.isPrefixOf? (b :: rest) with
    | some behind =>
      (piece.reverse ++ separator) :: piecesWith separator fuel [] behind
    | none => piecesWith separator fuel (b :: piece) rest

/-- The lines in reverse order. -/
def tac : Program := withOptions "tac" 1
    (flags [["b", "before"], ["r", "regex"]] ++ valued [["s", "separator"]]) fun st g =>
  let separator := ((g.value? "s").map bytesOf).getD [lineFeed]
  forFiles st (fun p e =>
      if e = .isDirectory then missing "tac" p e else
        s!"tac: failed to open {quotedName p} for reading: {e.description}") g.operands fun _ bs =>
    if g.has "b" then
      let pieces := (piecesWith separator.reverse (bs.length + 1) [] bs.reverse).map List.reverse
      emit st.out pieces.flatten
    else emit st.out (piecesWith separator (bs.length + 1) [] bs).reverse.flatten

/-- The bytes of every line in reverse order. -/
def rev : Program := withOptions "rev" 1 (flags [["0", "zero"]]) fun st g =>
  forFiles st (fun p e => s!"rev: cannot open {p}: {e.description}") g.operands fun _ bs =>
    emit st.out ((fullLines bs).flatMap fun l =>
      if l.getLast? = some lineFeed then l.dropLast.reverse ++ [lineFeed] else l.reverse)

/-- The number of a line in its column. -/
private def lineNumber (style : String) (width : Nat) (n : Int) : String :=
  let digits := toString n.natAbs
  let sign := if n < 0 then "-" else ""
  let fill (c : Char) := String.ofList (List.replicate (width - digits.length - sign.length) c)
  match style with
  | "ln" => sign ++ digits ++ fill ' '
  | "rz" => sign ++ fill '0' ++ digits
  | _ => fill ' ' ++ sign ++ digits

/-- Number lines. -/
def nl : Program := withOptions "nl" 1
    (valued [["b", "body-numbering"], ["d", "section-delimiter"], ["f", "footer-numbering"],
      ["h", "header-numbering"], ["i", "line-increment"], ["l", "join-blank-lines"],
      ["n", "number-format"], ["s", "number-separator"], ["v", "starting-line-number"],
      ["w", "number-width"]] ++ flags [["p", "no-renumber"]]) fun st g => do
  let width := ((g.value? "w").bind natOf?).getD 6
  let separator := (g.value? "s").getD "\t"
  let step := ((g.value? "i").bind intOf?).getD 1
  let style := (g.value? "b").getD "t"
  let blank := List.replicate (width + (bytesOf separator).length) (32 : UInt8)
  let mut n := ((g.value? "v").bind intOf?).getD 1
  let mut complete := true
  for name in (if g.operands.isEmpty then ["-"] else g.operands) do
    match ← fileOrInput name with
    | .error e =>
      emitText st.err (missing "nl" name e ++ "\n")
      complete := false
    | .ok bs =>
      let mut shown : List UInt8 := []
      for l in linesOf bs do
        if style = "a" || style = "t" && !l.isEmpty then
          shown := shown ++ bytesOf (lineNumber ((g.value? "n").getD "rn") width n ++ separator) ++ l
            ++ [lineFeed]
          n := n + step
        else shown := shown ++ blank ++ l ++ [lineFeed]
      emit st.out shown
  return statusOf complete

/-! ### Short lines -/

/-- The column behind a byte. -/
private def columnBehind (countsBytes : Bool) (column : Nat) (b : UInt8) : Nat :=
  if countsBytes then column + 1
  else if b = 8 then column - 1
  else if b = 13 then 0
  else if b = 9 then column + 8 - column % 8
  else column + 1

/-- The part of a line up to and with its last blank, and the rest. -/
private def lastBlank (line : List UInt8) : List UInt8 × List UInt8 :=
  let (behind, before) := line.reverse.span (!isBlankByte ·)
  (before.reverse, behind.reverse)

/-- A line cut into parts of a width; `line` is what the current part holds, in order. -/
private def foldLine (countsBytes atBlanks : Bool) (width : Nat) :
    (fuel : Nat) → (line : List UInt8) → (column : Nat) → List UInt8 → List (List UInt8)
  | 0, line, _, rest => [line ++ rest]
  | _, line, _, [] => [line]
  | fuel + 1, line, column, b :: rest =>
    let next := columnBehind countsBytes column b
    if width < next && !line.isEmpty then
      match if atBlanks then lastBlank line else ([], line) with
      | ([], _) => line :: foldLine countsBytes atBlanks width fuel [] 0 (b :: rest)
      | (before, behind) =>
        let column := behind.foldl (columnBehind countsBytes) 0
        before :: foldLine countsBytes atBlanks width fuel behind column (b :: rest)
    else foldLine countsBytes atBlanks width fuel (line ++ [b]) next rest

/-- The old way to give a number: as an option of its own. -/
private def numberOption (letter : String) : List String → List String
  | a :: rest =>
    match a.toList with
    | '-' :: ds =>
      if !ds.isEmpty && ds.all Char.isDigit then ("-" ++ letter ++ String.ofList ds) :: rest
      else a :: numberOption letter rest
    | _ => a :: numberOption letter rest
  | [] => []

/-- Cut long lines into short ones. -/
def fold : Program := fun st args =>
  withOptions "fold" 1 (flags [["b", "bytes"], ["s", "spaces"]] ++ valued [["w", "width"]])
    (fun st g => do
      let given := (g.value? "w").getD "80"
      match natOf? given with
      | none | some 0 =>
        emitText st.err s!"fold: invalid number of columns: {quotedPhrase given}\n"
        return 1
      | some width =>
        forFiles st (missing "fold") g.operands fun _ bs =>
          emit st.out ((fullLines bs).flatMap fun l =>
            let isWhole := l.getLast? = some lineFeed
            let body := if isWhole then l.dropLast else l
            let parts := foldLine (g.has "b") (g.has "s") width (2 * body.length + 2) [] 0 body
            [lineFeed].intercalate parts ++ (if isWhole then [lineFeed] else [])))
    st (numberOption "w" args)

/-! ### Beginnings and ends -/

/-- What is shown of a file: a number of lines or of bytes. -/
private structure Portion where
  bytes : Bool
  count : Nat
  /-- All but the last ones, or from the one of that number on. -/
  rest : Bool
  nul : Bool

/-- Whether headings are shown: always, never, or before each of several files. -/
private def headings (g : Given) : Bool :=
  match g.last? ["q", "v"] with
  | some "v" => true
  | some _ => false
  | none => 1 < g.operands.length

private def partOptions : List ProgramOption :=
  valued [["n", "lines"], ["c", "bytes"]]
    ++ flags [["q", "quiet", "silent"], ["v", "verbose"], ["z", "zero-terminated"]]

private def headedName (name : String) : String := if name = "-" then "standard input" else name

/-- Show a part of each file, under its name if there are several. What is not used of an input that
comes from a file stays there. -/
private def showParts (st : Streams) (program : String) (g : Given)
    (part : List UInt8 → List UInt8 × List UInt8) : Acting Nat := do
  let mut complete := true
  let mut first := true
  for name in (if g.operands.isEmpty then ["-"] else g.operands) do
    let feed := (← get).feed
    let heading := if headings g then
        (if first then "" else "\n") ++ s!"==> {headedName name} <==\n"
      else ""
    match ← fileOrInput name with
    | .ok bs =>
      let (shown, unused) := part bs
      emitText st.out heading
      emit st.out shown
      if name = "-" && feed.size.isSome then keepInput unused
      first := false
    | .error e =>
      if e = .isDirectory then
        emitText st.out heading
        first := false
      let doing := if e = .isDirectory then "error reading " else "cannot open "
      let purpose := if e = .isDirectory then "" else " for reading"
      emitText st.err s!"{program}: {doing}{quotedName name}{purpose}: {e.description}\n"
      complete := false
  return statusOf complete

/-- The beginning that a portion takes of a file, and the rest. -/
private def Portion.beginning (p : Portion) (bs : List UInt8) : List UInt8 × List UInt8 :=
  if p.bytes then
    let n := if p.rest then bs.length - p.count else p.count
    (bs.take n, bs.drop n)
  else
    let ls := fullPieces (lineMark p.nul) bs
    let n := if p.rest then ls.length - p.count else p.count
    ((ls.take n).flatten, (ls.drop n).flatten)

/-- The end that a portion takes of a file. -/
private def Portion.ending (p : Portion) (bs : List UInt8) : List UInt8 :=
  if p.bytes then bs.drop (if p.rest then p.count - 1 else bs.length - p.count)
  else
    let ls := fullPieces (lineMark p.nul) bs
    (ls.drop (if p.rest then p.count - 1 else ls.length - p.count)).flatten

/-- The old form of a first argument, such as `-5` or `-2c`, as options. -/
private def oldForm (letters : List Char) : List String → Except String (List String)
  | a :: rest =>
    match a.toList with
    | '-' :: d :: cs =>
      if !d.isDigit then return a :: rest
      else
        let more := cs.takeWhile Char.isDigit
        let count := String.ofList (d :: more)
        let behind := cs.drop more.length
        match behind.find? (!letters.contains ·) with
        | some bad => throw (String.ofList [bad])
        | none =>
          let unit := String.ofList (behind.filter "bkm".toList.contains)
          let kind := if behind.any "cbkm".toList.contains then "-c" else "-n"
          let others := (behind.filter "qvz".toList.contains).map fun c => String.ofList ['-', c]
          return (kind ++ count ++ unit) :: others ++ rest
    | _ => return a :: rest
  | [] => return []

/-- The last count that options give, or the standard one. -/
private def countOf (program : String) (g : Given) (signs : List Char) (marksRest : Char) :
    Except String Portion :=
  match g.last? ["n", "c"] with
  | none => return ⟨false, 10, false, g.has "z"⟩
  | some kind =>
    let value := (g.value? kind).getD ""
    let sign := value.toList.head?
    let text := if sign.any signs.contains then String.ofList (value.toList.drop 1) else value
    match amount? text with
    | some n => return ⟨kind = "c", n, sign = some marksRest, g.has "z"⟩
    | none =>
      let things := if kind = "c" then "bytes" else "lines"
      let shown := quotedPhrase (if marksRest = '-' then text else value)
      throw s!"{program}: invalid number of {things}: {shown}\n"

/-- Show the beginnings of files. -/
def head : Program := fun st args => do
  match oldForm "bkmcqvlz".toList args with
  | .error letter =>
    emitText st.err (s!"head: invalid trailing option -- {letter}\n" ++ helpHint "head")
    return 1
  | .ok args =>
    withOptions "head" 1 partOptions (fun st g => do
      match countOf "head" g ['-'] '-' with
      | .error message =>
        emitText st.err message
        return 1
      | .ok p => showParts st "head" g p.beginning) st args

/-- The old form of a first argument that begins with a plus sign, as an option. -/
private def oldStart : List String → List String
  | a :: rest =>
    match a.toList with
    | '+' :: d :: cs =>
      if d.isDigit && cs.all Char.isDigit then ("-n" ++ a) :: rest else a :: rest
    | _ => a :: rest
  | [] => []

/-- Show the ends of files. Whoever follows a file waits for ever. -/
def tail : Program := fun st args => do
  match oldForm "bclf".toList args with
  | .error _ =>
    let digits := ((args.headD "").toList.drop 1).takeWhile Char.isDigit
    emitText st.err s!"tail: option used in invalid context -- {String.ofList (digits.take 1)}\n"
    return 1
  | .ok args =>
    withOptions "tail" 1
      (partOptions ++ optionallyValued [["f", "follow"]] ++ flags [["F"], ["retry"]]
        ++ valued [["s", "sleep-interval"], ["pid"], ["max-unchanged-stats"]])
      (fun st g => do
        match countOf "tail" g ['-', '+'] '+' with
        | .error message =>
          emitText st.err message
          return 1
        | .ok p =>
          let status ← showParts st "tail" g fun bs => (p.ending bs, [])
          if (g.has "f" || g.has "F") && !g.operands.isEmpty then throw .timedOut
          return status) st (oldStart args)

/-! ### Counts -/

/-- What is counted. -/
private structure Counts where
  lines : Nat := 0
  words : Nat := 0
  bytes : Nat := 0
  /-- The width of the widest line. -/
  widest : Nat := 0

private def Counts.plus (a b : Counts) : Counts :=
  ⟨a.lines + b.lines, a.words + b.words, a.bytes + b.bytes, max a.widest b.widest⟩

/-- The number of words: runs between spaces in which something can be shown. -/
def countWords (bs : List UInt8) : Nat :=
  let runs := bs.splitBy fun a b => isSpaceByte a = isSpaceByte b
  (runs.filter fun run => run.any fun b => 33 ≤ b && b ≤ 126).length

/-- The width of a line as it is shown. -/
private def lineWidth (l : List UInt8) : Nat :=
  (l.foldl (fun (width, widest) b =>
    let width := if b = 9 then width + 8 - width % 8
      else if b = 13 || b = 12 then 0
      else if 32 ≤ b && b ≤ 126 then width + 1 else width
    (width, max width widest)) (0, 0)).2

private def countsOf (bs : List UInt8) : Counts :=
  ⟨bs.count lineFeed, countWords bs, bs.length, ((linesOf bs).map lineWidth).foldl max 0⟩

/-- Counts of lines, words and bytes. The columns are as wide as the sizes of the files demand, and
seven characters if something else than a file is counted. -/
def wc : Program := withOptions "wc" 1
    (flags [["c", "bytes"], ["m", "chars"], ["l", "lines"], ["L", "max-line-length"], ["w", "words"]]
      ++ valued [["total"]]) fun st g => do
  let all := ["c", "m", "l", "L", "w"].all (!g.has ·)
  let numbers (c : Counts) : List Nat :=
    (if all || g.has "l" then [c.lines] else []) ++ (if all || g.has "w" then [c.words] else [])
      ++ (if g.has "m" then [c.bytes] else []) ++ (if all || g.has "c" then [c.bytes] else [])
      ++ (if g.has "L" then [c.widest] else [])
  let s ← get
  let names := if g.operands.isEmpty then ["-"] else g.operands
  let sizes := names.filterMap fun n =>
    if n = "-" then some s.feed.size
    else match s.files.stat s.here n with
      | .ok (.file bytes) => some (some bytes.length)
      | .ok .directory => some none
      | .error _ => if n = nullFile then some none else none
  let columns := (numbers {}).length
  let width := if names.length = 1 && columns = 1 then 1
    else
      let total := (sizes.map (·.getD 0)).foldl (· + ·) 0
      max (toString total).length (if sizes.contains none then 7 else 1)
  let row (name : String) (width : Nat) (c : Counts) : String :=
    " ".intercalate ((numbers c).map (aligned width)) ++ (if name = "" then "" else " " ++ name) ++ "\n"
  let totals := (g.value? "total").getD "auto"
  let mut sum : Counts := {}
  let mut complete := true
  for name in names do
    let shown := if g.operands.isEmpty then "" else name
    match ← fileOrInput name with
    | .ok bs =>
      let c := countsOf bs
      sum := sum.plus c
      if totals ≠ "only" then emitText st.out (row shown width c)
    | .error e =>
      emitText st.err (missing "wc" name e ++ "\n")
      if e = .isDirectory && totals ≠ "only" then emitText st.out (row shown width {})
      complete := false
  if totals = "only" then emitText st.out (row "" 1 sum)
  else if totals = "always" || totals = "auto" && 1 < names.length then
    emitText st.out (row "total" width sum)
  return statusOf complete

/-! ### Copies of the input -/

/-- Copy the input to the output and to files. -/
def tee : Program := withOptions "tee" 1
    (flags [["a", "append"], ["i", "ignore-interrupts"], ["p"]]) fun st g => do
  let mut sinks := [st.out]
  let mut complete := true
  for f in g.operands do
    match ← fileSink f (g.has "a") with
    | .ok sink => sinks := sinks ++ [sink]
    | .error e =>
      emitText st.err (missing "tee" f e ++ "\n")
      complete := false
  let bs ← takeInput
  sinks.forM fun sink => emit sink bs
  return statusOf complete

end StepFlow.Shell

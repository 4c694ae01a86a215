import StepFlow.Shell.Programs.Order

/-!
# Columns

Programs that take lines apart into fields or characters, or put lines side by side.

## Main definitions

* `cut` — parts of lines
* `paste`, `comm`, `join` — lines of several files together
* `expand`, `unexpand` — tabs and blanks
-/

namespace StepFlow.Shell

/-! ### Parts of lines -/

/-- Why a list of positions is refused. -/
private inductive ListFault where
  | zero
  | decreasing
  | noEnd
  | bad (rest : String)
  | large (number : String)

private def ListFault.message (fields : Bool) : ListFault → String
  | zero =>
    if fields then "fields are numbered from 1" else "byte/character positions are numbered from 1"
  | decreasing => "invalid decreasing range"
  | noEnd => "invalid range with no endpoint: -"
  | bad rest =>
    let shown := quotedPhrase rest
    if fields then s!"invalid field value {shown}" else s!"invalid byte/character position {shown}"
  | large number =>
    let shown := quotedPhrase number
    if fields then s!"field number {shown} is too large"
    else s!"byte/character offset {shown} is too large"

/-- A position, if there is one at the beginning. -/
private def positionAt (cs : List Char) : Except ListFault (Option Nat × List Char) :=
  let ds := cs.takeWhile Char.isDigit
  let n := digitsValue 10 (ds.filterMap asciiDigit?)
  if ds.isEmpty then return (none, cs)
  else if twoTo 64 - 1 ≤ n then throw (.large (String.ofList ds))
  else return (some n, cs.drop ds.length)

private def isSeparator (c : Char) : Bool := c = ',' || c = ' ' || c = '\t'

/-- The ranges that a list such as `1,3-5` names; an open end goes on without limit. -/
private def ranges (fuel : Nat) (cs : List Char) : Except ListFault (List (Nat × Option Nat)) := do
  match fuel with
  | 0 => return []
  | fuel + 1 =>
    let (first, rest) ← positionAt cs
    let (range, rest) ← match rest with
      | '-' :: rest => do
        let (last, rest) ← positionAt rest
        if first.isNone && last.isNone then
          if rest.head?.all isSeparator then throw .noEnd else throw (.bad (String.ofList rest))
        pure ((first.getD 1, last), rest)
      | rest => pure ((first.getD 0, some (first.getD 0)), rest)
    if rest.head?.any (!isSeparator ·) then throw (.bad (String.ofList rest))
    if range.1 = 0 then throw .zero
    if range.2.any (· < range.1) then throw .decreasing
    match rest with
    | [] => return [range]
    | _ :: rest => return range :: (← ranges fuel rest)

/-- A position lies in one of the ranges. -/
private def isChosen (rs : List (Nat × Option Nat)) (i : Nat) : Bool :=
  rs.any fun r => r.1 ≤ i && r.2.all (i ≤ ·)

/-- The bytes at chosen positions, those of different ranges with a delimiter between them. -/
private def chosenBytes (rs : List (Nat × Option Nat)) (chosen : Nat → Bool)
    (delimiter : Option (List UInt8)) (line : List UInt8) : List UInt8 :=
  let kept := (line.zipIdx 1).filter fun b => chosen b.2
  match delimiter with
  | none => kept.map (·.1)
  | some d =>
    let startsRange (i : Nat) : Bool := rs.any (·.1 == i) || !chosen (i - 1)
    (kept.zipIdx).flatMap fun (b, n) => (if n ≠ 0 && startsRange b.2 then d else []) ++ [b.1]

private def cutOptions : List ProgramOption :=
  valued [["b", "bytes"], ["c", "characters"], ["d", "delimiter"], ["f", "fields"],
    ["output-delimiter"]]
  ++ flags [["n"], ["s", "only-delimited"], ["z", "zero-terminated"], ["complement"]]

/-- What is wrong with the options of `cut`, or the ranges and whether they are of fields. -/
private def cutRanges (g : Given) : Except String (Bool × List (Nat × Option Nat)) := do
  let lists := g.options.filter fun o => ["b", "c", "f"].contains o.1
  match lists with
  | [] => throw "you must specify a list of bytes, characters, or fields"
  | _ :: _ :: _ => throw "only one list may be specified"
  | [(kind, list)] =>
    let fields := kind = "f"
    if (g.value? "d").any fun d => 1 < (bytesOf d).length then
      throw "the delimiter must be a single character"
    if !fields && g.has "d" then
      throw "an input delimiter may be specified only when operating on fields"
    if !fields && g.has "s" then
      throw "suppressing non-delimited lines makes sense\n\tonly when operating on fields"
    let text := (list.getD "").toList
    let rs ← (ranges (text.length + 1) text).mapError (ListFault.message fields)
    return (fields, rs)

/-- Parts of each line: fields or bytes. -/
def cut : Program := withOptions "cut" 1 cutOptions fun st g => do
  match cutRanges g with
  | .error message => misused st "cut" message 1
  | .ok (fields, rs) =>
    let nul := lineMark (g.has "z")
    let mark := match g.value? "d" with
      | some d => (bytesOf d).headD 0
      | none => 9
    let chosen (i : Nat) : Bool := isChosen rs i ≠ g.has "complement"
    let between := (g.value? "output-delimiter").map bytesOf
    let part (line : List UInt8) : Option (List UInt8) :=
      if !fields then some (chosenBytes rs chosen between line)
      else if line.contains mark then
        let parts := ((line.splitOn mark).zipIdx 1).filter fun p => chosen p.2
        some ((between.getD [mark]).intercalate (parts.map (·.1)))
      else if g.has "s" then none else some line
    forFiles st (missing "cut") g.operands fun _ bs =>
      emit st.out (ended nul ((piecesOf nul bs).filterMap part))

/-! ### Lines side by side -/

/-- The delimiters that a list denotes, each possibly empty; `none` if it ends in a backslash. -/
private def delimiters? : List Char → Option (List (List UInt8))
  | [] => some []
  | ['\\'] => none
  | '\\' :: c :: rest => do
    let more ← delimiters? rest
    let d := match c with
      | '0' => []
      | 'b' => [8]
      | 'f' => [12]
      | 'n' => [lineFeed]
      | 'r' => [13]
      | 't' => [9]
      | 'v' => [11]
      | c => bytesOfChars [c]
    return d :: more
  | c :: rest => do return bytesOfChars [c] :: (← delimiters? rest)

/-- Pieces with delimiters between them, taken in turn. -/
private def withDelimiters (ds : List (List UInt8)) (pieces : List (List UInt8)) : List UInt8 :=
  (pieces.zipIdx).flatMap fun (p, i) =>
    (if i = 0 then [] else ((ds[(i - 1) % ds.length]?).getD [])) ++ p

/-- The rows of several columns. The columns given by a hyphen take the lines of the input in turn. -/
private def rows (columns : List (Option (List (List UInt8)))) (input : List (List UInt8)) :
    List (List (List UInt8)) :=
  let shared := (columns.filter (·.isNone)).length
  let height := (columns.map fun
    | some ls => ls.length
    | none => (input.length + shared - 1) / shared).foldl max 0
  let at' (ls : List (List UInt8)) (i : Nat) : List UInt8 := (ls[i]?).getD []
  (List.range height).map fun r =>
    (columns.foldl (fun (row, used) c =>
      match c with
      | some ls => (row ++ [at' ls r], used)
      | none => (row ++ [at' input (r * shared + used)], used + 1)) (([] : List (List UInt8)), 0)).1

/-- The lines of files side by side, or all lines of a file in one. -/
def paste : Program := withOptions "paste" 1
    (valued [["d", "delimiters"]] ++ flags [["s", "serial"], ["z", "zero-terminated"]]) fun st g => do
  let list := (g.value? "d").getD "\t"
  let nul := lineMark (g.has "z")
  match delimiters? (argumentChars (if list = "" then "\\0" else list)) with
  | none =>
    emitText st.err s!"paste: delimiter list ends with an unescaped backslash: {list}\n"
    return 1
  | some ds =>
    if g.has "s" then
      forFiles st (missing "paste") g.operands fun _ bs =>
        emit st.out (withDelimiters ds (piecesOf nul bs) ++ [nul])
    else
      let names := if g.operands.isEmpty then ["-"] else g.operands
      let mut columns := []
      for name in names do
        if name = "-" then columns := columns ++ [none]
        else match ← bytesAt name with
          | .ok bs => columns := columns ++ [some (piecesOf nul bs)]
          | .error e =>
            emitText st.err (missing "paste" name e ++ "\n")
            return 1
      let input ← if names.contains "-" then takeInput else pure []
      emit st.out (ended nul ((rows columns (piecesOf nul input)).map (withDelimiters ds)))
      return 0

/-! ### Lines in common -/

/-- A line of the first file only, of the second one only, or of both. -/
private inductive Side where
  | first
  | second
  | both
  deriving DecidableEq

/-- The lines of two files in one order. -/
private def sides : (fuel : Nat) → List (List UInt8) → List (List UInt8) → List (Side × List UInt8)
  | 0, _, _ => []
  | _, as, [] => as.map fun l => (.first, l)
  | _, [], bs => bs.map fun l => (.second, l)
  | fuel + 1, a :: as, b :: bs =>
    if a = b then (.both, a) :: sides fuel as bs
    else if bytesLe a b then (.first, a) :: sides fuel as (b :: bs)
    else (.second, b) :: sides fuel (a :: as) bs

/-- The number of the first line that is out of order. -/
private def outOfOrder? (ls : List (List UInt8)) : Option Nat :=
  ((ls.zip (ls.drop 1)).findIdx? fun p => !bytesLe p.1 p.2).map (· + 2)

private def commOptions : List ProgramOption :=
  flags [["1"], ["2"], ["3"], ["check-order"], ["nocheck-order"], ["total"], ["z", "zero-terminated"]]
  ++ valued [["output-delimiter"]]

/-- Two files that a program needs; anything else is a misuse. -/
private def twoFiles (st : Streams) (program : String) (g : Given)
    (act : String → String → Acting Nat) : Acting Nat :=
  match g.operands with
  | [] => missingOperand st program
  | [a] =>
    let shown := quotedPhrase a
    misused st program s!"missing operand after {shown}" 1
  | [a, b] => act a b
  | _ :: _ :: c :: _ => extraOperand st program c

/-- The lines of two files in order, those of one of them and those in common in columns of their
own. -/
def comm : Program := withOptions "comm" 1 commOptions fun st g => twoFiles st "comm" g fun a b => do
  let nul := lineMark (g.has "z")
  match ← fileOrInput a with
  | .error e =>
    emitText st.err (missing "comm" a e ++ "\n")
    return 1
  | .ok first =>
    match ← fileOrInput b with
    | .error e =>
      emitText st.err (missing "comm" b e ++ "\n")
      return 1
    | .ok second =>
      let first := piecesOf nul first
      let second := piecesOf nul second
      let found := sides (first.length + second.length + 1) first second
      let d := ((g.value? "output-delimiter").map bytesOf).getD [9]
      let shows (n : String) : Bool := !g.has n
      let column (n : String) : List UInt8 := if shows n then d else []
      let row (r : Side × List UInt8) : Option (List UInt8) :=
        match r.1 with
        | .first => if shows "1" then some r.2 else none
        | .second => if shows "2" then some (column "1" ++ r.2) else none
        | .both => if shows "3" then some (column "1" ++ column "2" ++ r.2) else none
      emit st.out (ended nul (found.filterMap row))
      let count (s : Side) : List UInt8 := bytesOf (toString (found.filter (·.1 == s)).length)
      if g.has "total" then
        emit st.out (d.intercalate [count .first, count .second, count .both, bytesOf "total"] ++ [nul])
      let unpaired := found.any (·.1 != .both)
      if g.has "nocheck-order" || !(unpaired || g.has "check-order") then return 0
      let bad := [(1, first), (2, second)].filter fun f => (outOfOrder? f.2).isSome
      bad.forM fun f => emitText st.err s!"comm: file {f.1} is not in sorted order\n"
      if bad.isEmpty then return 0
      unless g.has "check-order" do emitText st.err "comm: input is not in sorted order\n"
      return 1

/-! ### Lines with equal fields -/

private def joinOptions : List ProgramOption :=
  valued [["1"], ["2"], ["a"], ["e"], ["j"], ["o"], ["t"], ["v"]]
  ++ flags [["i", "ignore-case"], ["check-order"], ["nocheck-order"], ["header"],
    ["z", "zero-terminated"]]

private def fieldsAt (mark : Option UInt8) (line : List UInt8) : List (List UInt8) :=
  match mark with
  | some m => line.splitOn m
  | none => ((line.splitBy fun a b => isBlankByte a = isBlankByte b).filter fun run =>
      !(run.head?.any isBlankByte))

/-- A line with its fields. -/
private structure JoinLine where
  fields : List (List UInt8)
  key : List UInt8

/-- Pairs of lines with equal keys, and lines without a partner: the lines of either file. -/
private def joined : (fuel : Nat) → List JoinLine → List JoinLine →
    List (Option JoinLine × Option JoinLine)
  | 0, _, _ => []
  | _, as, [] => as.map fun a => (some a, none)
  | _, [], bs => bs.map fun b => (none, some b)
  | fuel + 1, a :: as, b :: bs =>
    if a.key = b.key then
      let left := (a :: as).takeWhile (·.key == a.key)
      let right := (b :: bs).takeWhile (·.key == a.key)
      (left.flatMap fun x => right.map fun y => (some x, some y))
        ++ joined fuel ((a :: as).drop left.length) ((b :: bs).drop right.length)
    else if bytesLe a.key b.key then (some a, none) :: joined fuel as (b :: bs)
    else (none, some b) :: joined fuel (a :: as) bs

/-- The fields of a row, as a list such as `0,1.2` asks for them. -/
private def outputFields (spec : List String) (empty : List UInt8) (a b : Option JoinLine) :
    List (List UInt8) :=
  spec.map fun s =>
    let field (l : Option JoinLine) (n : String) : List UInt8 :=
      let found := (l.bind fun l => l.fields[(natOf? n).getD 1 - 1]?).getD []
      if found.isEmpty then empty else found
    match s.splitOn "." with
    | ["1", n] => field a n
    | ["2", n] => field b n
    | _ => ((a <|> b).map (·.key)).getD []

private def isJoinMark (c : Char) : Bool := c = ',' || c = ' '

/-- Lines of two files with a field in common, as one line each. -/
def join : Program := withOptions "join" 1 joinOptions fun st g => twoFiles st "join" g fun a b => do
  let nul := lineMark (g.has "z")
  let mark := (g.value? "t").map fun t => (bytesOf t).headD nul
  let number (name : String) : Nat := (((g.value? name <|> g.value? "j").bind natOf?).getD 1) - 1
  let line (n : Nat) (bs : List UInt8) : JoinLine :=
    let fields := fieldsAt mark bs
    let key := (fields[n]?).getD []
    ⟨fields, if g.has "i" then key.map lowerByte else key⟩
  match ← fileOrInput a with
  | .error e =>
    emitText st.err (missing "join" a e ++ "\n")
    return 1
  | .ok first =>
    match ← fileOrInput b with
    | .error e =>
      emitText st.err (missing "join" b e ++ "\n")
      return 1
    | .ok second =>
      let first := (piecesOf nul first).map (line (number "1"))
      let second := (piecesOf nul second).map (line (number "2"))
      let (heads, first, second) := match g.has "header", first, second with
        | true, x :: xs, y :: ys => ([(some x, some y)], xs, ys)
        | _, xs, ys => ([], xs, ys)
      let pairs := joined (first.length + second.length + 1) first second
      let lone (n : String) : Bool := (g.values "a").contains n || (g.values "v").contains n
      let chosen := pairs.filter fun
        | (some _, some _) => !g.has "v"
        | (some _, none) => lone "1"
        | _ => lone "2"
      let between := [mark.getD 32]
      let empty := ((g.value? "e").map bytesOf).getD []
      let without (l : JoinLine) (n : Nat) : List (List UInt8) := l.fields.eraseIdx n
      let standard (a b : Option JoinLine) : List (List UInt8) :=
        let key := match a, b with
          | some l, _ => (l.fields[number "1"]?).getD []
          | none, some l => (l.fields[number "2"]?).getD []
          | none, none => []
        key :: ((a.map fun l => without l (number "1")).getD []
          ++ (b.map fun l => without l (number "2")).getD [])
      let row (p : Option JoinLine × Option JoinLine) : List UInt8 :=
        between.intercalate <| match g.value? "o" with
          | some spec =>
            outputFields ((spec.toList.splitBy fun a b => !isJoinMark a && !isJoinMark b).map
              String.ofList |>.filter fun s => !(s.toList.head?.any isJoinMark)) empty p.1 p.2
          | none => standard p.1 p.2
      emit st.out (ended nul ((heads ++ chosen).map row))
      let unpaired := pairs.any fun
        | (some _, some _) => false
        | _ => true
      if g.has "nocheck-order" || !(unpaired || g.has "check-order") then return 0
      let bad := [(a, first), (b, second)].filterMap fun f =>
        (outOfOrder? (f.2.map (·.key))).map fun n => (f.1, n, (f.2[n - 1]?).map (·.fields))
      for (name, n, fields) in bad do
        emitText st.err s!"join: {name}:{n}: is not sorted: "
        emit st.err (between.intercalate (fields.getD []) ++ [lineFeed])
      if bad.isEmpty then return 0
      unless g.has "check-order" do emitText st.err "join: input is not in sorted order\n"
      return 1

/-! ### Tabs -/

/-- Where tabs lead: a list of columns, or every multiple of one number. -/
private def nextStop (stops : List Nat) (column : Nat) : Option Nat :=
  match stops with
  | [n] => some (column + n - column % n)
  | stops => stops.find? (column < ·)

/-- The stops that a list denotes, or what is wrong with it. -/
private def stopsOf (g : Given) : Except String (List Nat) :=
  match g.value? "t" with
  | none => return [8]
  | some text =>
    let parts := (text.toList.splitOnP isJoinMark).filter (!·.isEmpty)
    match parts.find? fun p => p.any (!·.isDigit) with
    | some bad =>
      let shown := quotedPhrase (String.ofList (bad.dropWhile Char.isDigit))
      throw s!"tab size contains invalid character(s): {shown}"
    | none =>
      let stops := parts.map fun p => digitsValue 10 (p.filterMap asciiDigit?)
      if stops.contains 0 then throw "tab size cannot be 0"
      else if (stops.zip (stops.drop 1)).any fun p => p.2 ≤ p.1 then throw "tab sizes must be ascending"
      else return if stops.isEmpty then [8] else stops

/-- A line with blanks in place of tabs, those at its beginning or all. -/
private def expandLine (stops : List Nat) (initialOnly : Bool) (line : List UInt8) : List UInt8 :=
  (line.foldl (fun (out, column, goesOn) b =>
    if !goesOn then (out ++ [b], column, false)
    else if b = 9 then
      let next := (nextStop stops column).getD (column + 1)
      (out ++ List.replicate (next - column) 32, next, true)
    else
      let column := if b = 8 then column - 1 else column + 1
      (out ++ [b], column, !initialOnly || isBlankByte b)) (([] : List UInt8), 0, true)).1

private def withStops (st : Streams) (program : String) (g : Given)
    (change : List Nat → List UInt8 → List UInt8) : Acting Nat := do
  match stopsOf g with
  | .error message =>
    emitText st.err s!"{program}: {message}\n"
    return 1
  | .ok stops =>
    forFiles st (missing program) g.operands fun _ bs =>
      emit st.out ((fullLines bs).flatMap (change stops))

/-- Blanks in place of tabs. -/
def expand : Program := withOptions "expand" 1
    (flags [["i", "initial"]] ++ valued [["t", "tabs"]]) fun st g =>
  withStops st "expand" g fun stops => expandLine stops (g.has "i")

/-- What is known while blanks are turned into tabs. -/
private structure Blanks where
  out : List UInt8 := []
  column : Nat := 0
  pending : List UInt8 := []
  atStop : Bool := false
  wasBlank : Bool := true
  goesOn : Bool := true

private def Blanks.flush (b : Blanks) (byte : UInt8) : Blanks :=
  let pending := if 1 < b.pending.length && b.atStop then 9 :: b.pending.drop 1 else b.pending
  { b with out := b.out ++ pending ++ [byte], pending := [], atStop := false }

/-- One more byte of a line. -/
private def Blanks.step (stops : List Nat) (whole : Bool) (s : Blanks) (byte : UInt8) : Blanks :=
  if !s.goesOn then { s with out := s.out ++ [byte] }
  else if isBlankByte byte then
    match nextStop stops s.column with
    | none => { s.flush byte with goesOn := false }
    | some next =>
      let kept (s : Blanks) : List UInt8 := if s.atStop then s.pending.take 1 else []
      if byte = 9 then
        let pending := if s.pending.isEmpty then [] else 9 :: s.pending.drop 1
        let s := { s with column := next, pending }
        { { s with pending := kept s }.flush 9 with wasBlank := true }
      else
        let column := s.column + 1
        if s.wasBlank && column = next then
          let s := { s with column, pending := 9 :: s.pending.drop 1 }
          { { s with pending := kept s }.flush 9 with wasBlank := true }
        else
          { s with
            column, atStop := s.atStop || column = next, pending := s.pending ++ [byte]
            wasBlank := true }
  else
    let column := if byte = 8 then s.column - 1 else s.column + 1
    { { s with column }.flush byte with wasBlank := false, goesOn := whole }

/-- Tabs in place of blanks, at the beginning of lines or everywhere. -/
def unexpand : Program := withOptions "unexpand" 1
    (flags [["a", "all"], ["first-only"]] ++ valued [["t", "tabs"]]) fun st g =>
  let whole := (g.has "a" || g.has "t") && !g.has "first-only"
  withStops st "unexpand" g fun stops line =>
    let s := line.foldl (Blanks.step stops whole) {}
    s.out ++ s.pending

end StepFlow.Shell

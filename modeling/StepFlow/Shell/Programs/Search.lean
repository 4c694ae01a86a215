import StepFlow.Shell.Programs.Options
import StepFlow.Shell.Programs.Walk
import StepFlow.Shell.Regex.Read

/-!
# Searching lines

The lines of files in which one of several patterns is found, or is not found, with lines around them
if that is wanted.

## Main definitions

* `Search` — what is looked for
* `grep`
-/

namespace StepFlow.Shell

/-- What is looked for in lines. -/
structure Search where
  patterns : List Regex
  words : Bool := false
  lines : Bool := false
  inverted : Bool := false

namespace Search

/-- A match counts: for words, no part of a word may touch it; for lines, it must be all of one. -/
def accepts (s : Search) (m : Regex.Match) : Bool :=
  (!s.words || !(m.start.before.head?.any Regex.isWordChar) && !(m.stop.rest.head?.any Regex.isWordChar))
    && (!s.lines || m.start.before.isEmpty && m.stop.rest.isEmpty)

/-- The line is one of those looked for. -/
def selects (s : Search) (line : List Char) : Bool :=
  (Regex.findFrom? s.patterns s.accepts (line.length + 1) ⟨[], line, []⟩).isSome ≠ s.inverted

/-- The parts of a line that match, and where they begin. -/
def parts (s : Search) (line : List Char) : List (Nat × List Char) :=
  if s.inverted then []
  else
    let found := Regex.matchesFrom s.patterns s.accepts (line.length + 1) none ⟨[], line, []⟩
    (found.filter fun m => !m.text.isEmpty).map fun m => (m.start.before.length, m.text)

end Search

private def grepOptions : List ProgramOption :=
  flags [["a", "text"], ["b", "byte-offset"], ["c", "count"], ["E", "extended-regexp"],
    ["F", "fixed-strings"], ["G", "basic-regexp"], ["P", "perl-regexp"], ["H", "with-filename"],
    ["h", "no-filename"], ["i", "y", "ignore-case"], ["no-ignore-case"], ["I"], ["l", "files-with-matches"],
    ["L", "files-without-match"], ["n", "line-number"], ["o", "only-matching"], ["q", "quiet", "silent"],
    ["r", "R", "recursive", "dereference-recursive"], ["s", "no-messages"], ["T", "initial-tab"],
    ["U", "binary"], ["v", "invert-match"], ["w", "word-regexp"], ["x", "line-regexp"], ["Z", "null"],
    ["z", "null-data"], ["line-buffered"]]
  ++ flags ((List.range 10).map fun n => [toString n])
  ++ valued [["A", "after-context"], ["B", "before-context"], ["C", "context"], ["e", "regexp"],
    ["f", "file"], ["m", "max-count"], ["D", "devices"], ["d", "directories"], ["label"], ["include"],
    ["exclude"], ["exclude-dir"], ["binary-files"]]
  ++ optionallyValued [["color", "colour"]]

/-- An option of `grep` that has a number, or what is wrong with it. -/
private def contextOf (g : Given) (name : String) : Except String (Option Nat) :=
  match g.value? name with
  | none => return none
  | some s =>
    match amount? s with
    | some n => return some n
    | none => throw s!"{s}: invalid context length argument"

/-- Signs of a richer form of expressions in terms of the extended form. -/
private def simplified : List Char → List Char
  | '\\' :: 'd' :: rest => "[0-9]".toList ++ simplified rest
  | '\\' :: 'D' :: rest => "[^0-9]".toList ++ simplified rest
  | '\\' :: 'h' :: rest => "[\t ]".toList ++ simplified rest
  | '\\' :: c :: rest => '\\' :: c :: simplified rest
  | '(' :: '?' :: ':' :: rest => '(' :: simplified rest
  | c :: rest => c :: simplified rest
  | [] => []

/-- The expression of one pattern, and what is unusual about it. -/
private def expressionOf (g : Given) (text : List Char) : Except RegexFault (Regex × List String) :=
  let ignoresCase := g.last? ["i", "no-ignore-case"] = some "i"
  match (g.last? ["E", "F", "G", "P"]).getD "G" with
  | "F" => return (Regex.ofText ignoresCase text, [])
  | "E" => Regex.read { extended := true, ignoresCase } text
  | "P" => Regex.read { extended := true, ignoresCase, hasEscapes := true } (simplified text)
  | _ => Regex.read { ignoresCase } text

/-- The texts of the patterns: of options, of files, or of the first operand. -/
private def patternTexts (st : Streams) (g : Given) :
    Acting (Except Unit (List (List Char) × List String)) := do
  let fromFiles := g.values "f"
  let mut texts := ((g.values "e").map argumentChars).flatMap (·.splitOn '\n')
  for name in fromFiles do
    match ← fileOrInput name with
    | .ok bs => texts := texts ++ (linesOf bs).map charsOf
    | .error e =>
      emitText st.err s!"grep: {name}: {e.description}\n"
      return .error ()
  if g.has "e" || g.has "f" then return .ok (texts, g.operands)
  match g.operands with
  | [] =>
    emitText st.err ("Usage: grep [OPTION]... PATTERNS [FILE]...\n" ++ helpHint "grep")
    return .error ()
  | first :: rest => return .ok ((argumentChars first).splitOn '\n', rest)

/-- A line with its number, counted from one, and the bytes before it. -/
private structure NumberedLine where
  bytes : List UInt8
  number : Nat
  offset : Nat

private def numbered (ls : List (List UInt8)) : List NumberedLine :=
  (ls.foldl (fun (found, number, offset) l =>
    (⟨l, number, offset⟩ :: found, number + 1, offset + l.length + 1))
    (([] : List NumberedLine), 1, 0)).1.reverse

/-- A line that is shown: one that is looked for, or one close to such a line. -/
private structure ShownLine where
  line : NumberedLine
  isSelected : Bool

/-- The lines to be shown, those that lie next to each other in one group. -/
private def groupsOf (before after : Nat) (marked : List ShownLine) : List (List ShownLine) :=
  let hits := (marked.filter (·.isSelected)).map (·.line.number)
  let near (n : Nat) : Bool := hits.any fun h => h ≤ n + before && n ≤ h + after
  let shown := marked.filter fun l => near l.line.number
  shown.splitBy fun a b => a.line.number + 1 = b.line.number

/-- How lines are shown. -/
private structure Labels where
  name : Option String
  numbers : Bool
  offsets : Bool
  tabs : Bool
  nul : Bool

/-- What stands before a line. -/
private def Labels.lead (l : Labels) (sign : Char) (number offset : Nat) : List UInt8 :=
  let parts := (if l.numbers then [(4, number)] else []) ++ (if l.offsets then [(7, offset)] else [])
  let shown := parts.map fun (width, n) => (if l.tabs then aligned width n else toString n)
  let name := match l.name with
    | some n => bytesOf n ++ (if l.nul then [0] else [UInt8.ofNat sign.toNat])
    | none => []
  let numbers := shown.flatMap fun n => bytesOf (n ++ String.ofList [sign])
  name ++ numbers ++ (if l.tabs && (!parts.isEmpty || l.name.isSome) then [9] else [])

/-- What a search found in one file. -/
private structure Found where
  count : Nat
  shown : List (List UInt8)
  hasGroups : Bool
  /-- What is left of the file behind the last line that counts. -/
  rest : List UInt8

/-- Search one file. -/
private def searchIn (s : Search) (g : Given) (labels : Labels) (before after : Nat)
    (most : Option Nat) (separated : Bool) (bs : List UInt8) : Found :=
  let nul := lineMark (g.has "z")
  let all := numbered (piecesOf nul bs)
  let marked := all.map fun l => (⟨l, s.selects (charsOf l.bytes)⟩ : ShownLine)
  -- Behind the last line that counts, no further one does.
  let (marked, count) := marked.foldl (fun (found, count) l =>
    if l.isSelected && most.all (count < ·) then (found ++ [l], count + 1)
    else (found ++ [{ l with isSelected := false }], count)) (([] : List ShownLine), 0)
  let end' (l : NumberedLine) : Nat := l.offset + l.bytes.length + 1
  let rest := match most, (marked.filter (·.isSelected)).getLast? with
    | some n, some l => if n ≤ count then bs.drop (end' l.line) else []
    | _, _ => []
  if g.has "o" then
    let shown := (marked.filter (·.isSelected)).flatMap fun l =>
      (s.parts (charsOf l.line.bytes)).map fun (start, text) =>
        labels.lead ':' l.line.number (l.line.offset + start) ++ bytesOfChars text ++ [lineFeed]
    ⟨count, shown, false, rest⟩
  else
    let context := 0 < before || 0 < after
    let groups := if context then groupsOf before after marked
      else [marked.filter (·.isSelected)]
    let line (l : ShownLine) : List UInt8 :=
      labels.lead (if l.isSelected then ':' else '-') l.line.number l.line.offset ++ l.line.bytes ++ [nul]
    let dashes := bytesOf "--\n"
    let shown := (groups.zipIdx).flatMap fun (ls, i) =>
      (if context && (i ≠ 0 || separated) then [dashes] else []) ++ ls.map line
    ⟨count, shown, context && !groups.isEmpty, rest⟩

/-- A name passes the patterns of names that options give. -/
private def passesNames (g : Given) (path : String) : Bool :=
  let name := (lastName path).toList
  let accepts (p : String) : Bool := (NamePattern.ofText p.toList).accepts name
  let include' := g.values "include"
  (include'.isEmpty || include'.any accepts) && !(g.values "exclude").any accepts

/-- The files to be searched: all below directories if the search goes there. -/
private def filesToSearch (s : Session) (g : Given) (names : List String) : List String :=
  if !g.has "r" then if names.isEmpty then ["-"] else names
  else
    let enters (w : Walked) : Bool := w.depth = 0 ||
      !(g.values "exclude-dir").any fun p => (NamePattern.ofText p.toList).accepts (lastName w.path).toList
    let below (p : String) : List String :=
      if s.files.isDirectory s.here p then
        let found := (walk s.files s.here enters (depthOf s.files + 1) 0 p).map (·.path)
        found.filter fun q => !s.files.isDirectory s.here q && passesNames g q
      else [p]
    if names.isEmpty then (below ".").map fun p => String.ofList (p.toList.drop 2)
    else names.flatMap below

/-- The lines in which a pattern is found. -/
private def searchFiles (st : Streams) (g : Given) (s : Search) (names : List String)
    (before after : Nat) (most : Option Nat) : Acting Nat := do
  let session ← get
  let files := filesToSearch session g names
  let several := 1 < names.length || g.has "r"
  let withName := match g.last? ["H", "h"] with
    | some "H" => true
    | some _ => false
    | none => several
  let mut complete := true
  let mut hits := 0
  let mut separated := false
  for name in files do
    let feed := (← get).feed
    match ← fileOrInput name with
    | .error e =>
      unless g.has "s" do emitText st.err s!"grep: {name}: {e.description}\n"
      complete := false
    | .ok bs =>
      let shownAs := if name = "-" then (g.value? "label").getD "(standard input)" else name
      let labels : Labels :=
        { name := if withName then some shownAs else none, numbers := g.has "n", offsets := g.has "b"
          tabs := g.has "T", nul := g.has "Z" }
      let found := searchIn s g labels before after most separated bs
      hits := hits + found.count
      if name = "-" && feed.size.isSome then keepInput found.rest
      let mark : List UInt8 := if g.has "Z" then [0] else [lineFeed]
      let label := if withName then bytesOf shownAs ++ (if g.has "Z" then [0] else [58]) else []
      let isBinary := bs.contains 0 && !g.has "a" && !g.has "z" && g.value? "binary-files" ≠ some "text"
      if g.has "q" then
        if found.count ≠ 0 then return 0
      else if g.has "l" || g.has "L" then
        if (found.count ≠ 0) = g.has "l" then emit st.out (bytesOf shownAs ++ mark)
      else if g.has "c" then emit st.out (label ++ bytesOf s!"{found.count}\n")
      else if isBinary then
        if found.count ≠ 0 && !g.has "I" then
          emitText st.err s!"grep: {shownAs}: binary file matches\n"
      else
        emit st.out found.shown.flatten
        separated := separated || found.hasGroups
  return if !complete then 2 else if hits = 0 then 1 else 0

/-- Search files for patterns. -/
def grep : Program := fun st args => do
  match (OptionSet.mk grepOptions false).read args with
  | .error complaint =>
    emitText st.err
      (s!"grep: {complaint}\nUsage: grep [OPTION]... PATTERNS [FILE]...\n" ++ helpHint "grep")
    return 2
  | .ok g =>
    let digits := String.join ((g.options.filter fun o => (natOf? o.1).isSome).map (·.1))
    let contexts : Except String (Nat × Nat) := do
      let around := (← contextOf g "C").getD ((natOf? digits).getD 0)
      return ((← contextOf g "B").getD around, (← contextOf g "A").getD around)
    let most := (g.value? "m").map amount?
    match contexts, most with
    | .error message, _ =>
      emitText st.err s!"grep: {message}\n"
      return 2
    | _, some none =>
      emitText st.err "grep: invalid max count\n"
      return 2
    | .ok (before, after), most =>
      match ← patternTexts st g with
      | .error () => return 2
      | .ok (texts, names) =>
        match texts.mapM (expressionOf g) with
        | .error fault =>
          emitText st.err s!"grep: {fault.message}\n"
          return 2
        | .ok read =>
          (read.flatMap (·.2)).forM fun w => emitText st.err s!"grep: warning: {w}\n"
          if most = some (some 0) then return 1
          let s : Search :=
            { patterns := read.map (·.1), words := g.has "w", lines := g.has "x", inverted := g.has "v" }
          searchFiles st g s names before after (most.bind id)

end StepFlow.Shell

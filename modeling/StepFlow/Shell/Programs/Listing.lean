import StepFlow.Files.Glob
import StepFlow.Shell.Programs.Options
import StepFlow.Shell.Programs.Walk

/-!
# Listing directories

The names of files, and of what lies in directories, in order: one to a line, in columns, or behind
each other with commas.

## Main definitions

* `ls`
-/

namespace StepFlow.Shell

private def lsOptions : List ProgramOption :=
  flags [["a", "all"], ["A", "almost-all"], ["1"], ["d", "directory"], ["F"], ["p"], ["file-type"],
    ["r", "reverse"], ["R", "recursive"], ["S"], ["X"], ["t"], ["U"], ["f"], ["v"], ["c"], ["u"], ["m"],
    ["C"], ["x"], ["Q", "quote-name"], ["N", "literal"], ["b", "escape"], ["q", "hide-control-chars"],
    ["k", "kibibytes"], ["B", "ignore-backups"], ["group-directories-first"], ["l"], ["g"], ["o"], ["n",
    "numeric-uid-gid"], ["G", "no-group"], ["h", "human-readable"], ["si"], ["s", "size"], ["i", "inode"],
    ["L", "dereference"], ["H", "dereference-command-line"], ["full-time"], ["show-control-chars"],
    ["D", "dired"], ["Z", "context"], ["author"]]
  ++ valued [["w", "width"], ["I", "ignore"], ["T", "tabsize"], ["hide"], ["sort"], ["format"], ["time"],
    ["time-style"], ["block-size"], ["indicator-style"], ["quoting-style"]]
  ++ optionallyValued [["color"], ["classify"], ["hyperlink"]]

/-- A name that is listed, and what it leads to. -/
private structure Listed where
  name : String
  path : String

/-! ### Order -/

/-- The size by which files are ordered. -/
private def sizeOf (s : Session) (path : String) : Nat :=
  match s.files.stat s.here path with
  | .ok (.file bytes) => bytes.length
  | _ => 4096

/-- The name behind the last dot, with the dot. -/
private def extensionOf (name : String) : String :=
  let (behind, before) := name.toList.reverse.span (· ≠ '.')
  if before.isEmpty then "" else String.ofList ('.' :: behind.reverse)

private def textBefore (a b : String) : Bool := bytesLe (bytesOf a) (bytesOf b)

/-- Names in the order that options ask for. -/
private def inOrder (s : Session) (g : Given) (items : List Listed) : List Listed :=
  let byName := items.mergeSort fun a b => textBefore a.name b.name
  let sorted := match g.last? ["S", "X", "U", "f", "t", "v"] with
    | some "S" => byName.mergeSort fun a b => sizeOf s b.path ≤ sizeOf s a.path
    | some "X" => byName.mergeSort fun a b => textBefore (extensionOf a.name) (extensionOf b.name)
    | some "U" | some "f" => items
    | _ => byName
  let sorted := if g.has "r" then sorted.reverse else sorted
  if g.has "group-directories-first" then
    let isDirectory (a : Listed) : Bool := s.files.isDirectory s.here a.path
    sorted.filter isDirectory ++ sorted.filter fun a => !isDirectory a
  else sorted

/-! ### Layout -/

/-- A name as it is shown: between quotes if asked for, and with a mark for what it is. -/
private def shown (s : Session) (g : Given) (a : Listed) : String :=
  let name := if g.has "Q" then
      "\"" ++ String.ofList (a.name.toList.flatMap fun c =>
        if c = '"' || c = '\\' then ['\\', c] else [c]) ++ "\""
    else a.name
  let marks := g.has "F" || g.has "classify"
  let runs := (s.files.locate s.here a.path).toOption.any s.runnable.contains
  if s.files.isDirectory s.here a.path then
    name ++ (if marks || g.has "p" || g.has "file-type" then "/" else "")
  else name ++ (if marks && runs then "*" else "")

/-- The text that leads from one column to a later one: tabs as far as they go, then blanks. -/
private def gapText : (fuel start stop : Nat) → List Char
  | 0, _, _ => []
  | fuel + 1, start, stop =>
    if stop ≤ start then []
    else if (start + 1) / 8 < stop / 8 then '\t' :: gapText fuel (start + 8 - start % 8) stop
    else ' ' :: gapText fuel (start + 1) stop

/-- The items of each row if there are so many columns, with the places of the items among all. -/
private def rowsOf (across : Bool) (columns : Nat) (items : List String) : List (List String) :=
  let rows := (items.length + columns - 1) / columns
  (List.range rows).map fun r =>
    (List.range columns).filterMap fun c => items[if across then r * columns + c else c * rows + r]?

/-- The widths of columns: each is as wide as its widest item and two blanks, the last one without
them. -/
private def columnWidths (columns : Nat) (rows : List (List String)) : List Nat :=
  (List.range columns).map fun c =>
    let widest := (rows.filterMap fun row => (row[c]?).map String.length).foldl max 0
    if c + 1 = columns then widest else widest + 2

/-- Items in as many columns as a line of a width holds. -/
private def inColumns (across : Bool) (width : Nat) (items : List String) : String :=
  let fits (columns : Nat) : Bool :=
    (columnWidths columns (rowsOf across columns items)).foldl (· + ·) 0 < width
  let columns := (((List.range items.length).map (· + 1)).reverse.find? fits).getD 1
  let rows := rowsOf across columns items
  let widths := columnWidths columns rows
  let starts := (List.range columns).map fun c => (widths.take c).foldl (· + ·) 0
  let rowText (row : List String) : List Char :=
    ((row.zip starts).foldl (fun ((found, place) : List Char × Nat) (item, start) =>
      (found ++ gapText (start + 1) place start ++ item.toList, start + item.length)) ([], 0)).1
  String.join (rows.map fun row => String.ofList (rowText row) ++ "\n")

/-- Items behind each other, with commas, in lines of a width. -/
private def withCommas (width : Nat) (items : List String) : String :=
  let (found, _) := items.zipIdx.foldl (fun ((found, place) : String × Nat) (item, i) =>
    let length := item.length + (if i + 1 < items.length then 2 else 0)
    if i = 0 then (item, item.length)
    else if width = 0 || place + 2 + length ≤ width then
      (found ++ ", " ++ item, place + 2 + item.length)
    else (found ++ ",\n" ++ item, item.length)) ("", 0)
  if items.isEmpty then "" else found ++ "\n"

/-- The options that ask for a line of details to each file. -/
private def detailed : List String := ["l", "g", "o", "n", "full-time"]

/-- The listing of names. -/
private def layout (g : Given) (items : List String) : String :=
  let width := ((g.value? "w").bind natOf?).getD 80
  match g.last? (["1", "m", "C", "x"] ++ detailed) with
  | some "m" => withCommas width items
  | some "C" => if items.isEmpty then "" else inColumns false width items
  | some "x" => if items.isEmpty then "" else inColumns true width items
  | _ => String.join (items.map (· ++ "\n"))

/-! ### Listings -/

/-- The names in a directory that are shown: hidden ones only if asked for. -/
private def entriesOf (s : Session) (g : Given) (directory : String) : List Listed :=
  let all := (s.files.list s.here directory).toOption.getD []
  let all := match g.last? ["a", "A", "f"] with
    | some "A" => all
    | some _ => "." :: ".." :: all
    | none => all.filter fun n => n.toList.head? ≠ some '.'
  let ignored := g.values "I" ++ (if g.has "a" || g.has "A" then [] else g.values "hide")
  let all := all.filter fun n =>
    !(ignored.any fun p => (NamePattern.ofText p.toList).accepts n.toList)
      && !(g.has "B" && n.toList.getLast? = some '~')
  all.map fun n => ⟨n, Glob.joined directory n⟩

/-- The directories below a directory, each behind the one it lies in. -/
private def directoriesBelow (s : Session) (g : Given) : (depth : Nat) → String → List String
  | 0, _ => []
  | depth + 1, d =>
    let inside := (inOrder s g (entriesOf s g d)).filter fun a =>
      a.name ≠ "." && a.name ≠ ".." && s.files.isDirectory s.here a.path
    inside.flatMap fun a => a.path :: directoriesBelow s g depth a.path

/-- List files and directories. -/
def ls : Program := withOptions "ls" 2 lsOptions fun st g => do
  let s ← get
  let names := if g.operands.isEmpty then ["."] else g.operands
  let mut complete := true
  for n in names do
    if let .error e := s.files.stat s.here n then
      let shown := quotedName n
      emitText st.err s!"ls: cannot access {shown}: {e.description}\n"
      complete := false
  let there := inOrder s g ((names.filter (s.files.exists? s.here)).map fun n => ⟨n, n⟩)
  let isOpened (a : Listed) : Bool := s.files.isDirectory s.here a.path && !g.has "d"
  let plain := there.filter (!isOpened ·)
  emitText st.out (layout g (plain.map (shown s g)))
  let deep := g.has "R"
  let opened := (there.filter isOpened).flatMap fun a =>
    if deep then a.path :: directoriesBelow s g (depthOf s.files) a.path else [a.path]
  let mut first := plain.isEmpty
  for d in opened do
    if 1 < names.length || deep then emitText st.out ((if first then "" else "\n") ++ d ++ ":\n")
    let entries := entriesOf s g d
    if entries.isEmpty && detailed.any g.has then emitText st.out "total 0\n"
    emitText st.out (layout g ((inOrder s g entries).map (shown s g)))
    first := false
  return if complete then 0 else 2

end StepFlow.Shell

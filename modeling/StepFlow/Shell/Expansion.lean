import StepFlow.Files.Home
import StepFlow.Shell.Arithmetic
import StepFlow.Shell.Pattern
import StepFlow.Shell.Programs.Table

/-!
# Expansion of words

A word becomes fields: its expansions are replaced by their values, unquoted values are split at
blanks, and fields with unquoted wildcards become the names of files that match them.

The output of a command comes from outside this module: expansion is given what carries commands out.

## Main definitions

* `Fragment` — an expanded piece
* `expandWords` — the fields of words
* `expandText`, `expandValue` — a word as one text, without splitting
* `matchPattern` — a word as a pattern
-/

namespace StepFlow.Shell

/-- What carries out a command and gives what it wrote. -/
abbrev Substitution := List Char → Acting (List UInt8)

/-! ### Variables -/

/-- The characters that separate fields. -/
def separators (s : Session) : List Char :=
  match s.vars.get? "IFS" with
  | some v => v.toList
  | none => [' ', '\t', '\n']

/-- Values as one text: the first of the characters that separate fields stands between them. -/
def joinedValues (s : Session) (values : List String) : String :=
  (String.ofList ((separators s).take 1)).intercalate values

/-- The value of a variable or parameter, if it is set. -/
def lookup (s : Session) (name : String) : Option String :=
  match name with
  | "?" => some (toString s.status)
  | "$" => some (toString processNumber)
  | "#" => some (toString s.arguments.length)
  | "0" => some s.name
  | "@" | "*" => if s.arguments.isEmpty then none else some (joinedValues s s.arguments)
  | "-" => some (Mode.letters s.modes)
  | "!" => some (if s.lastJob = 0 then "" else toString s.lastJob)
  | name =>
    match natOf? name with
    | some n => s.arguments[n - 1]?
    | none => s.vars.get? name

def setVariable (name value : String) : Acting Unit := do
  let s ← get
  if s.constants.contains name then abort s!"{name}: is read only"
  let exported :=
    if s.keeps .exportsAll && !s.exported.contains name then s.exported ++ [name] else s.exported
  set { s with vars := s.vars.set name value, exported }

/-- The value of a variable; whether it must be set depends on the session. -/
def valueOf (name : String) : Acting String := do
  let s ← get
  match lookup s name with
  | some v => return v
  | none =>
    if s.keeps .requiresSet && name ≠ "@" && name ≠ "*" then abort s!"{name}: parameter not set"
    else return ""

/-! ### Fragments -/

/-- An expanded piece of a word. -/
inductive Fragment where
  /-- Text that belongs together. Quoted text holds no wildcards. -/
  | whole (chars : List Char) (quoted : Bool)
  /-- A value that is split at blanks. -/
  | loose (chars : List Char)
  /-- Values that stay apart, quoted or each split at blanks; the text between them if they have to be
  joined. -/
  | apart (values : List String) (quoted : Bool) (joint : String)
  deriving Repr, Inhabited

/-- A value as a fragment. -/
private def valueFragment (value : String) (quoted : Bool) : Fragment :=
  if quoted then .whole value.toList true else .loose value.toList

/-- A parameter whose values stay apart. -/
private def staysApart (name : String) (quoted : Bool) : Bool := name = "@" || (name = "*" && !quoted)

/-- All arguments as a fragment. -/
private def argumentsFragment (s : Session) (quoted : Bool) : Fragment :=
  .apart s.arguments quoted (joinedValues s ["", ""])

/-- Fragments in place of an unquoted value: their unquoted text is split like a value. -/
private def loosened (quoted : Bool) (fs : List Fragment) : List Fragment :=
  if quoted then fs
  else fs.map fun
    | .whole cs false => .loose cs
    | f => f

/-- The text of fragments, unsplit. -/
def fragmentsText (fs : List Fragment) : List Char :=
  fs.flatMap fun
    | .whole cs _ => cs
    | .loose cs => cs
    | .apart vs _ joint => (joint.intercalate vs).toList

/-- The value that output stands for: without the line ends at its end. -/
private def outputValue (bs : List UInt8) : String :=
  textOf ((bs.filter (· ≠ 0)).reverse.dropWhile (· = lineFeed)).reverse

/-- Fragments as a pattern, in which quoted text stands for itself. -/
def fragmentsPattern (fs : List Fragment) : NamePattern :=
  patternOf <| fs.flatMap fun
    | .whole cs quoted => cs.map fun c => (c, quoted)
    | .loose cs => cs.map fun c => (c, false)
    | .apart vs quoted joint => (joint.intercalate vs).toList.map fun c => (c, quoted)

/-- A text without its shortest or longest beginning that a pattern accepts. -/
private def dropStart (longest : Bool) (p : NamePattern) (cs : List Char) : List Char :=
  let lengths := List.range (cs.length + 1)
  match (if longest then lengths.reverse else lengths).find? fun n => p.accepts (cs.take n) with
  | some n => cs.drop n
  | none => cs

private def dropEnd (longest : Bool) (p : NamePattern) (cs : List Char) : List Char :=
  let lengths := List.range (cs.length + 1)
  match (if longest then lengths else lengths.reverse).find? fun n => p.accepts (cs.drop n) with
  | some n => cs.take n
  | none => cs

/-! ### Expansion of pieces -/

/-- The value of an arithmetic expression. -/
private def evaluateExpression (text : List Char) : Acting String := do
  match Expr.read text with
  | .error m => abort s!"arithmetic expression: {m}: \"{String.ofList text}\""
  | .ok e =>
    let s ← get
    match e.value.run s.vars with
    | .ok (n, vars) =>
      match s.constants.find? fun name => vars.get? name ≠ s.vars.get? name with
      | some name => abort s!"{name}: is read only"
      | none =>
        set { s with vars }
        return toString n
    | .error (.expression m) => abort s!"arithmetic expression: {m}: \"{String.ofList text}\""
    | .error (.illegalNumber t) => abort s!"Illegal number: {t}"

mutual

/-- The fragments of a piece. -/
def expandPiece (substitute : Substitution) : Piece → Acting (List Fragment)
  | .text cs quoted => return [.whole cs quoted]
  | .arithmetic expr quoted => do
    let fs ← expandPieces substitute expr
    return [valueFragment (← evaluateExpression (fragmentsText fs)) quoted]
  | .output command quoted => do
    return [valueFragment (outputValue (← substitute command)) quoted]
  | .variable name use word quoted => do
    let s ← get
    let value := lookup s name
    let isMissing (orEmpty : Bool) : Bool :=
      match value with
      | none => true
      | some v => orEmpty && v = ""
    match use with
    | .plain =>
      if staysApart name quoted then return [argumentsFragment s quoted]
      else return [valueFragment (← valueOf name) quoted]
    | .length => return [valueFragment (toString (bytesOf (← valueOf name)).length) quoted]
    | .default orEmpty =>
      if isMissing orEmpty then return loosened quoted (← expandPieces substitute word)
      else if staysApart name quoted then return [argumentsFragment s quoted]
      else return [valueFragment (value.getD "") quoted]
    | .assign orEmpty =>
      if isMissing orEmpty then
        let v := String.ofList (fragmentsText (← expandPieces substitute word))
        setVariable name v
        return [valueFragment v quoted]
      else return [valueFragment (value.getD "") quoted]
    | .alternative orEmpty =>
      if isMissing orEmpty then return []
      else return loosened quoted (← expandPieces substitute word)
    | .required orEmpty =>
      if isMissing orEmpty then
        let message := String.ofList (fragmentsText (← expandPieces substitute word))
        let standard := if orEmpty then "parameter not set or null" else "parameter not set"
        let shown := if message = "" then standard else message
        abort s!"{name}: {shown}"
      else return [valueFragment (value.getD "") quoted]
    | .withoutStart longest =>
      let p := fragmentsPattern (← expandPieces substitute word)
      return [valueFragment (String.ofList (dropStart longest p (← valueOf name).toList)) quoted]
    | .withoutEnd longest =>
      let p := fragmentsPattern (← expandPieces substitute word)
      return [valueFragment (String.ofList (dropEnd longest p (← valueOf name).toList)) quoted]

/-- The fragments of pieces. -/
def expandPieces (substitute : Substitution) : List Piece → Acting (List Fragment)
  | [] => return []
  | p :: rest => do
    let fs ← expandPiece substitute p
    return fs ++ (← expandPieces substitute rest)

end

/-- The characters up to a slash or, in a list of paths, a colon, and the pieces behind them; `none` if
something else than plain text stands before. -/
private def plainName (inPaths : Bool) : Word → Option (List Char × Word)
  | [] => some ([], [])
  | .text [c] false :: rest =>
    if c = '/' || (inPaths && c = ':') then some ([], .text [c] false :: rest)
    else (plainName inPaths rest).map fun (name, behind) => (c :: name, behind)
  | _ => none

/-- A tilde at the beginning of a word stands for a home directory; in a list of paths also a tilde
behind a colon. -/
private def expandTilde (s : Session) (inPaths : Bool) : (fuel : Nat) → Word → Word
  | 0, w => w
  | fuel + 1, w =>
    let begun := match w with
      | .text ['~'] false :: rest =>
        match plainName inPaths rest with
        | some (name, behind) =>
          match homeOf? (s.vars.get? "HOME") (String.ofList ('~' :: name)) with
          | some home => .text home.toList true :: behind
          | none => w
        | none => w
      | w => w
    if !inPaths then begun
    else
      let isColon : Piece → Bool
        | .text [':'] false => true
        | _ => false
      match begun.span (!isColon ·) with
      | (before, colon :: behind) => before ++ colon :: expandTilde s inPaths fuel behind
      | (before, []) => before

private def fragmentsOf (substitute : Substitution) (w : Word) : Acting (List Fragment) := do
  expandPieces substitute (expandTilde (← get) false 1 w)

/-- A word as one text. -/
def expandText (substitute : Substitution) (w : Word) : Acting String := do
  return String.ofList (fragmentsText (← fragmentsOf substitute w))

/-- The value that a word gives a variable, which may be a list of paths. -/
def expandValue (substitute : Substitution) (w : Word) : Acting String := do
  let w := expandTilde (← get) true (w.length + 1) w
  return String.ofList (fragmentsText (← expandPieces substitute w))

/-- A word as a pattern. -/
def matchPattern (substitute : Substitution) (w : Word) : Acting NamePattern := do
  return fragmentsPattern (← fragmentsOf substitute w)

/-! ### Fields -/

/-- A field under construction: its characters, which of them are quoted, and whether it exists even
if it is empty. -/
structure Field where
  chars : List MarkedChar := []
  exists? : Bool := false
  deriving Repr, Inhabited

/-- Blanks among the marks that separate fields. -/
def isBlankMark (c : Char) : Bool := c = ' ' || c = '\t' || c = '\n'

/-- Split the characters of a value into the field that has begun and those that are complete before
it, in reverse. Blanks join with each other and with one other mark; in such a gap, `gap` holds. -/
private def splitLoose (marks : List Char) : (gap : Bool) → List Char → Field → List Field →
    Field × List Field
  | _, [], f, done => (f, done)
  | gap, c :: cs, f, done =>
    if !marks.contains c then splitLoose marks false cs ⟨f.chars ++ [(c, false)], true⟩ done
    else if gap then splitLoose marks (isBlankMark c) cs f done
    else if isBlankMark c && !f.exists? then splitLoose marks false cs f done
    else splitLoose marks (isBlankMark c) cs {} (f :: done)

/-- The fields that values make which stay apart. -/
private def splitApart (marks : List Char) (quoted : Bool) : List String → Field → List Field →
    Field × List Field
  | [], f, done => (f, done)
  | v :: vs, f, done =>
    let (f, done) :=
      if quoted then (⟨f.chars ++ v.toList.map fun c => (c, true), true⟩, done)
      else splitLoose marks false v.toList f done
    if vs.isEmpty then (f, done)
    else splitApart marks quoted vs {} (if f.exists? then f :: done else done)

/-- The fields of fragments. -/
def fieldsOf (marks : List Char) (fs : List Fragment) : List Field :=
  let (last, done) := fs.foldl (fun (f, done) fragment =>
    match fragment with
    | .whole cs quoted =>
      (⟨f.chars ++ cs.map fun c => (c, quoted), f.exists? || quoted || !cs.isEmpty⟩, done)
    | .loose cs => splitLoose marks false cs f done
    | .apart vs quoted _ => splitApart marks quoted vs f done) (({} : Field), ([] : List Field))
  ((if last.exists? then last :: done else done)).reverse

/-- The texts that a field stands for: paths that match it, or itself. -/
def namesOf (s : Session) (f : Field) : List String :=
  let itself := String.ofList (f.chars.map (·.1))
  if s.keeps .keepsWildcards then [itself]
  else
    let found := matchingPaths s f.chars
    if found.isEmpty then [itself] else found

/-- The fields of a word. -/
def expandWord (substitute : Substitution) (w : Word) : Acting (List String) := do
  -- Double quotes around all arguments make no field if there are none.
  let fs ← fragmentsOf substitute w
  let s ← get
  let nothing := s.arguments.isEmpty && w.any fun
    | .variable "@" .plain _ true => true
    | _ => false
  if nothing && (fragmentsText fs).isEmpty then return []
  return (fieldsOf (separators s) fs).flatMap (namesOf s)

/-- The fields of words. -/
def expandWords (substitute : Substitution) : List Word → Acting (List String)
  | [] => return []
  | w :: ws => do
    let fs ← expandWord substitute w
    return fs ++ (← expandWords substitute ws)

end StepFlow.Shell

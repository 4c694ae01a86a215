import StepFlow.Files.Tree

/-!
# Wildcards

Patterns for names: `*` stands for any characters, `?` for one character and `[…]` for one character
of a class. A pattern for paths has a pattern for names between slashes; the name pattern `**` stands
for any number of directories. Names that begin with a dot are matched only by patterns that begin
with one.

Expanding a pattern calls itself for each name from the first wildcard on, and for each directory that
it goes into. What is left of `nestingLimit` such calls is the room that the parts of a pattern have.

## Main definitions

* `NamePattern.ofText`, `NamePattern.accepts` — patterns for single names
* `Glob.expand` — the paths in a file tree that a pattern matches
-/

namespace StepFlow

/-- What may stand at one position of a name. -/
inductive NameItem where
  /-- Any characters, possibly none. -/
  | any
  /-- Exactly one character. -/
  | one
  | char (c : Char)
  /-- A character of one of the ranges, or of none of them. -/
  | oneOf (negated : Bool) (ranges : List (Char × Char))
  deriving DecidableEq, Repr

/-- The item stands for the character. -/
def NameItem.takes (c : Char) : NameItem → Bool
  | .any => true
  | .one => true
  | .char d => c = d
  | .oneOf negated ranges => negated != ranges.any fun r => r.1 ≤ c && c ≤ r.2

/-- A pattern for a name. -/
abbrev NamePattern := List NameItem

namespace NamePattern

/-! ### Reading -/

/-- The text of a class, cut at the hyphens that make ranges. A hyphen at the beginning stands for
itself, and so does one right after a range; the number counts characters before which no hyphen
makes a range. -/
private def chunks : Nat → List Char → List (List Char)
  | _, [] => [[]]
  | n, c :: cs =>
    if n = 0 && c = '-' then [] :: chunks 2 cs
    else match chunks (n - 1) cs with
      | [] => [[c]]
      | k :: ks => (c :: k) :: ks

/-- An empty last chunk means that the class ends in a hyphen, which then stands for itself. -/
private def closeChunks (ks : List (List Char)) : List (List Char) :=
  match ks.reverse with
  | [] :: last :: before => ((last ++ ['-']) :: before).reverse
  | _ => ks

/-- The ranges of a class given by its chunks: each hyphen spans from the last character before it to
the first one after it, and a range whose ends are out of order holds nothing. -/
private def rangesOf : List (List Char) → List (Char × Char)
  | [] => []
  | [k] => k.map fun c => (c, c)
  | k :: next :: ks =>
    match k.reverse, next with
    | low :: before, high :: rest =>
      (before.reverse.map fun c => (c, c)) ++ (if low ≤ high then [(low, high)] else [])
        ++ rangesOf (rest :: ks)
    | _, _ => (k.map fun c => (c, c)) ++ rangesOf (next :: ks)
termination_by ks => ks.length

/-- The class between brackets, when the text after the opening one has a closing one: the negation,
the ranges, and the number of characters up to and with the closing bracket. -/
private def classOf? (cs : List Char) : Option (NameItem × Nat) :=
  let (negated, body) := match cs with
    | '!' :: rest => (true, rest)
    | cs => (false, cs)
  let (lead, body) := match body with
    | ']' :: rest => ([']'], rest)
    | body => ([], body)
  match body.span (· ≠ ']') with
  | (_, []) => none
  | (inside, _ :: _) =>
    let stuff := lead ++ inside
    some (.oneOf negated (rangesOf (closeChunks (chunks 1 stuff))),
      (if negated then 1 else 0) + stuff.length + 1)

/-- The pattern that a text denotes; the number counts characters still to be passed over. -/
private def items : Nat → List Char → NamePattern
  | _, [] => []
  | n + 1, _ :: cs => items n cs
  | 0, c :: cs =>
    if c = '*' then .any :: items 0 cs
    else if c = '?' then .one :: items 0 cs
    else if c = '[' then
      match classOf? cs with
      | some (item, n) => item :: items n cs
      | none => .char c :: items 0 cs
    else .char c :: items 0 cs

def ofText (s : List Char) : NamePattern := items 0 s

/-! ### Matching -/

/-- What may remain of a text once it has begun with a part of a pattern, the longest first. -/
abbrev Remainders := List (List Char)

/-- A text without its first characters, for each number of them. -/
def endings : List Char → Remainders
  | [] => [[]]
  | c :: cs => (c :: cs) :: endings cs

/-- What remains after one more item. All remainders are endings of the longest one. -/
def pass (rs : Remainders) : NameItem → Remainders
  | .any => (rs.head?.map endings).getD []
  | item => rs.filterMap fun
    | c :: cs => if item.takes c then some cs else none
    | [] => none

/-- The whole text matches the pattern. -/
def accepts (p : NamePattern) (cs : List Char) : Bool :=
  (p.foldl pass [cs]).any List.isEmpty

end NamePattern

namespace Glob

/-- The text has a wildcard. -/
def hasMagic (s : String) : Bool :=
  s.toList.any fun c => c = '*' || c = '?' || c = '['

def isHidden (name : String) : Bool := name.toList.head? = some '.'

def isRecursive (name : String) : Bool := name = "**"

/-- The text up to the last slash and the text after it. Slashes at the end of the first part are
dropped, unless it has nothing else. -/
def splitLast (s : String) : String × String :=
  let (base, head) := s.toList.reverse.span (· ≠ '/')
  let trimmed := head.dropWhile (· = '/')
  (String.ofList (if trimmed.isEmpty then head else trimmed).reverse, String.ofList base.reverse)

/-- A name put behind a directory's text. -/
def joined (directory name : String) : String :=
  if name.toList.head? = some '/' then name
  else if directory = "" || directory.toList.getLast? = some '/' then directory ++ name
  else directory ++ "/" ++ name

/-- The current directory stands for an empty text. -/
def orHere (directory : String) : String :=
  if directory = "" then "." else directory

/-- The names in a directory, none if it cannot be listed. -/
def names (t : FileTree) (here : Place) (directory : String) (directoriesOnly : Bool) :
    Except Fault (List String) :=
  if directory.toList.contains '\x00' then throw .nulInPath
  else match t.list here (orHere directory) with
    | .error _ => return []
    | .ok ns => return ns.filter fun n =>
        !directoriesOnly || t.isDirectory here (joined (orHere directory) n)

/-- The paths below a directory, hidden ones left out. -/
def below (t : FileTree) (here : Place) (directoriesOnly : Bool) :
    (room : Nat) → String → Except Fault (List String)
  | 0, _ => throw .tooDeep
  | room + 1, directory => do
    let found ← names t here directory directoriesOnly
    let groups ← (found.filter (!isHidden ·)).mapM fun n => do
      let deeper ← below t here directoriesOnly room (joined directory n)
      return n :: deeper.map (joined n)
    return groups.flatten

/-- The names in a directory that match a pattern. -/
def matching (t : FileTree) (here : Place) (pattern : String) (directoriesOnly : Bool)
    (directory : String) : Except Fault (List String) := do
  let found ← names t here directory directoriesOnly
  let p := NamePattern.ofText pattern.toList
  return found.filter fun n => (isHidden pattern || !isHidden n) && p.accepts n.toList

def isThere (t : FileTree) (here : Place) (path : String) : Bool :=
  !path.toList.contains '\x00' && t.exists? here path

def isDirectoryThere (t : FileTree) (here : Place) (path : String) : Bool :=
  !path.toList.contains '\x00' && t.isDirectory here path

/-- The directory itself, as an empty path whether it exists or not, and all that lies below it. -/
def descendants (t : FileTree) (here : Place) (room : Nat) (directoriesOnly : Bool)
    (directory : String) : Except Fault (List String) := do
  let found ← below t here directoriesOnly room directory
  return "" :: found

/-- A plain name in a directory, if it exists; the empty name stands for the directory. -/
def plain (t : FileTree) (here : Place) (name directory : String) : List String :=
  if name = "" then if isDirectoryThere t here directory then [""] else []
  else if isThere t here (joined directory name) then [name] else []

/-- What the last name of a pattern matches in a directory. -/
def inDirectory (t : FileTree) (here : Place) (room : Nat) (base : String)
    (directoriesOnly : Bool) (directory : String) : Except Fault (List String) :=
  if !hasMagic base then return plain t here base directory
  else if isRecursive base then descendants t here room directoriesOnly directory
  else matching t here base directoriesOnly directory

/-- The paths that a pattern matches, in the order of the tree. The pattern is taken apart from its
end. -/
def expandFrom (t : FileTree) (here : Place) :
    (room : Nat) → (pattern : String) → (directoriesOnly : Bool) → Except Fault (List String)
  | 0, _, _ => throw .tooDeep
  | room + 1, pattern, directoriesOnly => do
    let (directory, base) := splitLast pattern
    if !hasMagic pattern then
      if base = "" then return if isDirectoryThere t here directory then [pattern] else []
      else return if isThere t here pattern then [pattern] else []
    else if directory = "" then
      inDirectory t here (room + 1) base directoriesOnly ""
    else
      let directories ←
        if directory ≠ pattern && hasMagic directory then expandFrom t here room directory true
        else pure [directory]
      let groups ← directories.mapM fun d => do
        return (← inDirectory t here (room + 1) base directoriesOnly d).map (joined d)
      return groups.flatten

/-- The paths that a pattern matches, a relative one taken from `here`. -/
def expand (t : FileTree) (here : Place) (pattern : String) : Except Fault (List String) := do
  let found ← expandFrom t here nestingLimit pattern false
  -- A pattern that begins with `**` also finds the directory it starts from, as an empty path.
  if pattern = "" || (pattern.toList.take 2 = ['*', '*'] && found.head? = some "") then
    return found.drop 1
  else return found

end Glob

end StepFlow

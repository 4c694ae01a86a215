import StepFlow.Fault
import StepFlow.Files.Path

/-!
# File trees

A file tree says what stands at each place: a file with its bytes or a directory. A place is given
by the names that lead to it from the root, which is always a directory. Trees change by single
`Change`s, so a sequence of changes tells every state that a tree went through.

Paths are followed name by name, as an operating system does it: every name but the last must be a
directory, one dot stays where it is and two dots go up.

## Main definitions

* `FileTree`, `FileTree.get?`
* `Change`, `FileTree.apply` — the changes a tree may undergo
* `FileTree.locate` — the place that a path denotes
* `FileTree.read`, `list`, `write`, `makeDirectory`, `rename` — operations, with the system's refusals
-/

namespace StepFlow

/-- The names that lead from the root to a place. -/
abbrev Place := List String

/-- What stands at a place. -/
inductive Entry where
  | file (bytes : List UInt8)
  | directory
  deriving DecidableEq, Repr, Inhabited

/-- Files and directories by their places. -/
structure FileTree where
  entries : List (Place × Entry) := []
  deriving DecidableEq, Repr, Inhabited

/-- A single change of a file tree. -/
inductive Change where
  /-- Put bytes at a place, in the file that stands there or in a new one. -/
  | write (place : Place) (bytes : List UInt8)
  | makeDirectory (place : Place)
  /-- Move what stands at one place to another, in place of what stood there. -/
  | rename (source target : Place)
  | remove (place : Place)
  deriving DecidableEq, Repr

namespace FileTree

/-! ### Places -/

/-- What stands at a place. -/
def get? (t : FileTree) : Place → Option Entry
  | [] => some .directory
  | place => (t.entries.find? (·.1 == place)).map (·.2)

/-- Put an entry at a place. -/
def put (t : FileTree) (place : Place) (e : Entry) : FileTree :=
  ⟨t.entries.filter (·.1 != place) ++ [(place, e)]⟩

/-- Leave nothing at a place. -/
def erase (t : FileTree) (place : Place) : FileTree :=
  ⟨t.entries.filter (·.1 != place)⟩

/-- The tree after a change. -/
def apply (t : FileTree) : Change → FileTree
  | .write place bytes => t.put place (.file bytes)
  | .makeDirectory place => t.put place .directory
  | .rename source target =>
    match t.get? source with
    | some e => (t.erase source).put target e
    | none => t
  | .remove place => t.erase place

/-- The tree after a sequence of changes. -/
def applyAll (t : FileTree) (changes : List Change) : FileTree :=
  changes.foldl apply t

/-- The names in a directory. -/
def namesIn (t : FileTree) (place : Place) : List String :=
  t.entries.filterMap fun e =>
    match place.isPrefixOf? e.1 with
    | some [name] => some name
    | _ => none

/-! ### Following paths -/

/-- The most bytes a name may have. -/
def longestName : Nat := 255

/-- The most bytes a path may have. -/
def longestPath : Nat := 4095

/-- Follow names from a place. The last name need not exist. -/
def follow (t : FileTree) : Place → List String → Except FileCause Place
  | here, [] => return here
  | here, name :: rest =>
    if name = "." || name = "" then
      follow t here rest
    else if name = ".." then
      follow t here.dropLast rest
    else if name.utf8ByteSize > longestName then throw .nameTooLong
    else
      let next := here ++ [name]
      if rest.isEmpty then return next
      else match t.get? next with
        | some .directory => follow t next rest
        | some (.file _) => throw .notDirectory
        | none => throw .notFound

/-- The place that a path denotes, a relative one taken from `here`. -/
def locate (t : FileTree) (here : Place) (path : String) : Except FileCause Place :=
  if path = "" then throw .notFound
  else if path.utf8ByteSize > longestPath then throw .nameTooLong
  else
    let names := (splitNames path.toList).map String.ofList
    t.follow (if path.toList.head? = some '/' then [] else here) names

/-- What stands where a path leads. A path that ends in a slash leads to directories only. -/
def stat (t : FileTree) (here : Place) (path : String) : Except FileCause Entry := do
  let place ← t.locate here path
  match t.get? place with
  | none => throw .notFound
  | some e =>
    if e ≠ .directory && path.toList.getLast? = some '/' then throw .notDirectory else return e

/-- What stands where a path leads, if anything does. Only a path that is too long is at fault. -/
def look? (t : FileTree) (here : Place) (path : String) : Except FileCause (Option Entry) :=
  match t.stat here path with
  | .ok e => return some e
  | .error .nameTooLong => throw .nameTooLong
  | .error _ => return none

def exists? (t : FileTree) (here : Place) (path : String) : Bool :=
  match t.stat here path with
  | .ok _ => true
  | .error _ => false

def isFile (t : FileTree) (here : Place) (path : String) : Bool :=
  match t.stat here path with
  | .ok (.file _) => true
  | _ => false

def isDirectory (t : FileTree) (here : Place) (path : String) : Bool :=
  match t.stat here path with
  | .ok .directory => true
  | _ => false

/-! ### Operations -/

/-- The bytes of a file. -/
def read (t : FileTree) (here : Place) (path : String) : Except FileCause (List UInt8) := do
  match ← t.stat here path with
  | .file bytes => return bytes
  | .directory => throw .isDirectory

/-- The names in the directory where a path leads. -/
def list (t : FileTree) (here : Place) (path : String) : Except FileCause (List String) := do
  match ← t.stat here path with
  | .directory => return t.namesIn (← t.locate here path)
  | .file _ => throw .notDirectory

/-- The place of a file to be written: a file, or nothing yet in a directory. -/
def writable (t : FileTree) (here : Place) (path : String) : Except FileCause Place := do
  let place ← t.locate here path
  match t.get? place with
  | some .directory => throw .isDirectory
  | some (.file _) => return place
  | none =>
    match t.get? place.dropLast with
    | some .directory => return place
    | some (.file _) => throw .notDirectory
    | none => throw .notFound

/-- The place of a directory to be made. Slashes behind its name do not matter. -/
def makable (t : FileTree) (here : Place) (path : String) : Except FileCause Place := do
  let name := (path.toList.reverse.dropWhile (· = '/')).reverse
  let place ← t.locate here (if name.isEmpty then path else String.ofList name)
  match t.get? place with
  | some _ => throw .alreadyExists
  | none =>
    match t.get? place.dropLast with
    | some .directory => return place
    | some (.file _) => throw .notDirectory
    | none => throw .notFound

end FileTree

end StepFlow

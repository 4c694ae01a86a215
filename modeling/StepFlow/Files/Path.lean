/-!
# Paths

A path is written as names between slashes. `Path` is its normal form: empty names and single dots
drop out, two dots stay. `Path.text` writes a path in normal form.

## Main definitions

* `Path.ofText`, `Path.text`
* `Path.join` — a path taken from a directory
* `Path.relativeTo?` — the rest of a path below a directory
* `Path.withSuffix` — the last extension replaced
-/

namespace StepFlow

/-- The names in a path, empty ones included. -/
def splitNames (s : List Char) : List (List Char) :=
  s.foldr (fun c acc =>
    if c = '/' then [] :: acc
    else match acc with
      | [] => [[c]]
      | n :: ns => (c :: n) :: ns) [[]]

/-- A path in normal form. -/
structure Path where
  /-- The slashes an absolute path begins with; empty for a relative path. -/
  root : String
  names : List String
  deriving DecidableEq, Repr, Inhabited

namespace Path

/-- The root of a text: a path that begins with exactly two slashes keeps both. -/
def rootOf : List Char → String
  | '/' :: '/' :: '/' :: _ => "/"
  | '/' :: '/' :: _ => "//"
  | '/' :: _ => "/"
  | _ => ""

/-- The path that a text denotes. -/
def ofText (s : String) : Path :=
  ⟨rootOf s.toList,
    ((splitNames s.toList).filter fun n => !n.isEmpty && n ≠ ['.']).map String.ofList⟩

def isAbsolute (p : Path) : Bool := p.root ≠ ""

/-- The text of a path; a relative path without names is a dot. -/
def text (p : Path) : String :=
  if p.root = "" && p.names.isEmpty then "." else p.root ++ "/".intercalate p.names

/-- The path `q`, taken from the directory `p` unless it is absolute. -/
def join (p q : Path) : Path :=
  if q.isAbsolute then q else ⟨p.root, p.names ++ q.names⟩

/-- The path of a name in the directory `p`. -/
def child (p : Path) (name : String) : Path := p.join (ofText name)

/-- The parts of a path: its root, if it has one, and its names. -/
def parts (p : Path) : List String :=
  if p.root = "" then p.names else p.root :: p.names

/-- What remains of `p` below the directory `base`. -/
def relativeTo? (p base : Path) : Option Path :=
  if p.root = base.root then (base.names.isPrefixOf? p.names).map (⟨"", ·⟩) else none

/-- A name without its last extension: the final dot, unless it is the first or the last character,
and what follows it. -/
def stem (name : List Char) : List Char :=
  let (extension, rest) := name.reverse.span (· ≠ '.')
  match rest with
  | '.' :: before => if before.isEmpty || extension.isEmpty then name else before.reverse
  | _ => name

/-- The path with the last extension replaced. -/
def withSuffix (p : Path) (suffix : String) : Path :=
  match p.names.reverse with
  | [] => p
  | last :: before =>
    ⟨p.root, ((String.ofList (stem last.toList) ++ suffix) :: before).reverse⟩

end Path

end StepFlow

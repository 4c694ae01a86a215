import StepFlow.Files.Glob
import StepFlow.Shell.Programs.Basic
import StepFlow.Shell.Regex.Read

/-!
# Patterns of the shell

Words of a script serve as patterns for texts and for paths. A quoted character stands for itself, an
unquoted one may be a wildcard or open a class. A path is matched name by name; names that begin with
a dot only by patterns that do so too.

## Main definitions

* `MarkedChar` — a character of a word
* `patternOf` — the pattern that characters make
* `matchingPaths` — the paths that a word stands for
-/

namespace StepFlow.Shell

/-- A character of a word, and whether it is quoted. -/
abbrev MarkedChar := Char × Bool

/-! ### Classes -/

/-- The class that a name between brackets and colons stands for, and what follows. -/
private def namedMembers? (cs : List MarkedChar) : Option (List (Char × Char) × List MarkedChar) :=
  match cs with
  | ('[', false) :: (':', _) :: rest =>
    let name := rest.takeWhile (·.1 ≠ ':')
    match rest.drop name.length with
    | (':', _) :: (']', false) :: behind =>
      (Regex.namedClass? (String.ofList (name.map (·.1)))).map fun ranges => (ranges, behind)
    | _ => none
  | _ => none

/-- One member of a class; a backslash keeps the character behind it. -/
private def member? : List MarkedChar → Option (Char × List MarkedChar)
  | ('\\', false) :: (c, _) :: rest => some (c, rest)
  | (c, _) :: rest => some (c, rest)
  | [] => none

/-- The members of a class up to its closing bracket, and what follows. -/
private def members? : (fuel : Nat) → (first : Bool) → List MarkedChar →
    Option (List (Char × Char) × List MarkedChar)
  | 0, _, _ | _, _, [] => none
  | fuel + 1, first, cs => do
    if cs.head? = some (']', false) && !first then return ([], cs.drop 1)
    let (ranges, rest) ← match namedMembers? cs with
      | some found => some found
      | none => do
        let (low, rest) ← member? cs
        match rest with
        | ('-', false) :: behind =>
          if behind.head? = some (']', false) || behind.isEmpty then some ([(low, low)], rest)
          else do
            let (high, rest) ← member? behind
            some ([(low, high)], rest)
        | rest => some ([(low, low)], rest)
    let (more, rest) ← members? fuel false rest
    return (ranges ++ more, rest)

/-- The class behind an opening bracket, and what follows. -/
private def class? (cs : List MarkedChar) : Option (NameItem × List MarkedChar) :=
  let negated := cs.head? = some ('!', false)
  let body := if negated then cs.drop 1 else cs
  (members? (body.length + 1) true body).map fun (ranges, rest) => (.oneOf negated ranges, rest)

/-! ### Patterns -/

private def itemsOf : (fuel : Nat) → List MarkedChar → NamePattern
  | 0, _ | _, [] => []
  | fuel + 1, ('*', false) :: rest => .any :: itemsOf fuel rest
  | fuel + 1, ('?', false) :: rest => .one :: itemsOf fuel rest
  | fuel + 1, ('[', false) :: rest =>
    match class? rest with
    | some (item, behind) => item :: itemsOf fuel behind
    | none => .char '[' :: itemsOf fuel rest
  | fuel + 1, ('\\', false) :: (c, _) :: rest => .char c :: itemsOf fuel rest
  | fuel + 1, (c, _) :: rest => .char c :: itemsOf fuel rest

/-- The pattern that characters make. -/
def patternOf (cs : List MarkedChar) : NamePattern := itemsOf (cs.length + 1) cs

/-- The pattern stands for more than one text. -/
private def isWild (p : NamePattern) : Bool :=
  p.any fun
    | .char _ => false
    | _ => true

/-! ### Paths -/

/-- The names in a directory that a pattern matches. -/
private def matchingNames (s : Session) (directory : String) (p : NamePattern) : List String :=
  let startsWithDot := p.head? = some (.char '.')
  let all := (s.files.list s.here (if directory = "" then "." else directory)).toOption.getD []
  let all := if startsWithDot then "." :: ".." :: all else all
  all.filter fun n => (startsWithDot || n.toList.head? ≠ some '.') && p.accepts n.toList

/-- The paths that begin with a text and go on with names that match, as far as they exist. -/
private def pathsFrom (s : Session) : (lead : String) → List (List MarkedChar) → List String
  | lead, [] => [lead]
  | lead, part :: rest =>
    let p := patternOf part
    let next (name : String) : List String :=
      if rest.isEmpty then
        if s.files.exists? s.here (lead ++ name) then [lead ++ name] else []
      else pathsFrom s (lead ++ name ++ "/") rest
    if isWild p then (matchingNames s lead p).flatMap next
    else next (String.ofList (part.map (·.1)))

/-- The paths that the characters of a word stand for, in order; none if the word has no wildcards or
nothing matches. -/
def matchingPaths (s : Session) (cs : List MarkedChar) : List String :=
  let parts := cs.splitOnP (·.1 = '/')
  if parts.any fun part => isWild (patternOf part) then
    (pathsFrom s "" parts).mergeSort fun a b => bytesLe (bytesOf a) (bytesOf b)
  else []

end StepFlow.Shell

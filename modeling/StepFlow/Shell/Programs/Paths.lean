import StepFlow.Shell.Programs.Options
import StepFlow.Shell.Programs.Walk

/-!
# Programs for paths

Parts of paths as they are written, and the places that paths denote.

## Main definitions

* `basename`, `dirname`
* `pwd`, `realpath`, `readlink`
-/

namespace StepFlow.Shell

/-- A name without an ending; a name that is nothing but the ending keeps it. -/
private def withoutEnding (ending name : String) : String :=
  let cs := name.toList
  if ending.toList.isSuffixOf cs && ending ≠ name then
    String.ofList (cs.take (cs.length - ending.toList.length))
  else name

def basename : Program := fun st args => do
  match (OptionSet.mk (flags [["a", "multiple"], ["z", "zero"]] ++ valued [["s", "suffix"]]) true).read args
  with
  | .error complaint => misused st "basename" complaint 1
  | .ok g =>
    let mark := if g.has "z" then "\x00" else "\n"
    let several := g.has "a" || g.has "s"
    match g.operands with
    | [] => missingOperand st "basename"
    | first :: rest =>
      if several then
        let ending := (g.value? "s").getD ""
        for name in g.operands do emitText st.out (withoutEnding ending (lastName name) ++ mark)
        return 0
      else match rest with
        | _ :: extra :: _ => extraOperand st "basename" extra
        | rest =>
          emitText st.out (withoutEnding (rest.headD "") (lastName first) ++ mark)
          return 0

/-- A path without its last name and the slashes before it. -/
private def directoryName (path : String) : String :=
  let trimmed := path.toList.reverse.dropWhile (· = '/')
  let before := trimmed.dropWhile (· ≠ '/')
  let directory := (before.dropWhile (· = '/')).reverse
  if !directory.isEmpty then String.ofList directory
  else if path.toList.head? = some '/' then "/" else "."

def dirname : Program := withOptions "dirname" 1 (flags [["z", "zero"]]) fun st g => do
  if g.operands.isEmpty then return ← missingOperand st "dirname"
  for name in g.operands do
    emitText st.out (directoryName name ++ (if g.has "z" then "\x00" else "\n"))
  return 0

/-- A place as a path from the root. -/
def pathOf (place : Place) : String := "/" ++ "/".intercalate place

/-- Show the current directory. -/
def pwd : Program := fun st args => do
  match args.find? fun a => !(["-L", "-P", "-LP", "-PL", "--"].contains a) && a.toList.head? = some '-' with
  | some bad =>
    complain s!"Illegal option -{String.ofList ((bad.toList.drop 1).take 1)}"
    return 2
  | none =>
    emitText st.out (pathOf (← get).here ++ "\n")
    return 0

/-- The place of a path: all of it has to exist, all but the last name, or nothing. -/
private def resolved (s : Session) (needed : Option Char) (path : String) : Except FileCause String := do
  match needed with
  | some 'm' => return pathOf (((s.files.locate s.here path).toOption).getD (s.here ++ [path]))
  | some 'e' =>
    let _ ← s.files.stat s.here path
    return pathOf (← s.files.locate s.here path)
  | _ =>
    let place ← s.files.locate s.here path
    if s.files.get? place.dropLast = some .directory then return pathOf place else throw .notFound

/-- Show the places of paths. -/
private def showPlaces (st : Streams) (g : Given) (quiet : Bool) (program : String)
    (needed : Option Char) : Acting Nat := do
  let mut complete := true
  for name in g.operands do
    let s ← get
    match resolved s needed name with
    | .ok path => emitText st.out (path ++ (if g.has "z" then "\x00" else "\n"))
    | .error e =>
      unless quiet do emitText st.err (missing program name e ++ "\n")
      complete := false
  return statusOf complete

def realpath : Program := withOptions "realpath" 1
    (flags [["e", "canonicalize-existing"], ["m", "canonicalize-missing"], ["L", "logical"],
      ["P", "physical"], ["q", "quiet"], ["s", "strip", "no-symlinks"], ["z", "zero"]]
      ++ valued [["relative-to"], ["relative-base"]]) fun st g => do
  if g.operands.isEmpty then return ← missingOperand st "realpath"
  showPlaces st g (g.has "q") "realpath" (if g.has "e" then some 'e' else if g.has "m" then some 'm' else none)

/-- Show the places of paths. Without options only links have one, and there are none. -/
def readlink : Program := withOptions "readlink" 1
    (flags [["e", "canonicalize-existing"], ["f", "canonicalize"], ["m", "canonicalize-missing"],
      ["n", "no-newline"], ["q", "quiet", "silent"], ["s"], ["v", "verbose"], ["z", "zero"]]) fun st g => do
  if g.operands.isEmpty then return ← missingOperand st "readlink"
  match g.last? ["e", "f", "m"] with
  | some kind => showPlaces st g (!g.has "v") "readlink" kind.toList.head?
  | none => return 1

end StepFlow.Shell

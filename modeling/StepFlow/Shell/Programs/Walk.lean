import StepFlow.Files.Glob
import StepFlow.Shell.Programs.Basic

/-!
# Walking through directories

The paths at and below a path, in the order of the tree, each behind the directory it lies in.
-/

namespace StepFlow.Shell

/-- Names in the order of their bytes. -/
def sortedNames (names : List String) : List String :=
  names.mergeSort fun a b => bytesLe (bytesOf a) (bytesOf b)

/-- A depth that no place in a tree exceeds. -/
def depthOf (t : FileTree) : Nat := t.entries.foldl (fun n e => max n e.1.length) 0 + 1

/-- A path with its depth below the path where the walk began. -/
structure Walked where
  path : String
  depth : Nat
  deriving DecidableEq, Repr, Inhabited

/-- The paths at and below a path; what lies in a directory that `enters` refuses is left out. -/
def walk (t : FileTree) (here : Place) (enters : Walked → Bool) :
    (fuel depth : Nat) → String → List Walked
  | 0, _, _ => []
  | fuel + 1, depth, path =>
    let at' : Walked := ⟨path, depth⟩
    at' ::
      if t.isDirectory here path && enters at' then
        ((t.list here path).toOption.getD []).flatMap fun n =>
          walk t here enters fuel (depth + 1) (Glob.joined path n)
      else []

/-- The last name in a path, as it is written. -/
def lastName (path : String) : String :=
  let cs := (path.toList.reverse.dropWhile (· = '/')).takeWhile (· ≠ '/')
  if cs.isEmpty then (if path = "" then "" else "/") else String.ofList cs.reverse

end StepFlow.Shell

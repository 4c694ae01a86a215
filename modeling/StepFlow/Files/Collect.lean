import StepFlow.Fields
import StepFlow.Files.Glob
import StepFlow.World

/-!
# Collecting files

Patterns are matched in a workspace, directories of certain names are left out, and the files found
are read. A file has as its label the path by which it was found, taken from the workspace if the
pattern was.

## Main definitions

* `Collector.find` — the labels of the files that a pattern matches, in order
* `Collector.textAt` — the text of a file
* `Collector.gather` — labels and texts of the files of several patterns, and what went wrong
* `Collector.isForeseen` — the faults that only cost a pattern its files
* `renderFiles` — labelled blocks
-/

namespace StepFlow

/-- Where and what to collect. -/
structure Collector where
  workspace : Path
  /-- Names of directories whose files are left out. -/
  ignored : List String
  deriving Repr, Inhabited

/-- Directories of build products and of version control. -/
def defaultIgnored : List String :=
  ["node_modules", "dist", "build", ".git", "__pycache__", ".venv"]

namespace Collector

/-- The text of a pattern taken from the workspace. -/
def fullPattern (c : Collector) (pattern : String) : String :=
  if (Path.ofText pattern).isAbsolute then pattern
  else (c.workspace.join (Path.ofText pattern)).text

/-- The label of a path found for a pattern. -/
def labelOf (c : Collector) (pattern : String) (path : Path) : Path :=
  if (Path.ofText pattern).isAbsolute then path else (path.relativeTo? c.workspace).getD path

/-- The path lies in a directory that is left out. -/
def isIgnored (ignored : List String) (label : Path) : Bool :=
  label.parts.dropLast.any ignored.contains

/-- A file stands where a path leads. -/
def isFile (t : FileTree) (here : Place) (path : String) : Except Fault Bool :=
  match t.look? here path with
  | .ok (some (.file _)) => return true
  | .ok _ => return false
  | .error cause => throw (.file cause path)

/-- The labels of the files that a pattern matches, in order, directories of the given names left
out. -/
def findExcept (c : Collector) (ignored : List String) (t : FileTree) (pattern : String) :
    Except Fault (List String) := do
  let here := c.workspace.names
  let found ← Glob.expand t here (c.fullPattern pattern)
  let files ← (found.map Path.ofText).filterM fun p => isFile t here p.text
  let labels := files.map (c.labelOf pattern)
  return sortedTexts ((labels.filter fun l => !isIgnored ignored l).map Path.text)

/-- The labels of the files that a pattern matches, in order. -/
def find (c : Collector) (t : FileTree) (pattern : String) : Except Fault (List String) :=
  c.findExcept c.ignored t pattern

/-- The text of a file, with uniform line ends. -/
def textAt (c : Collector) (t : FileTree) (label : String) : Except Fault String :=
  let path := (c.workspace.join (Path.ofText label)).text
  if path.toList.contains '\x00' then throw .nulInPath
  else match t.read c.workspace.names path with
    | .error cause => throw (.file cause path)
    | .ok bytes =>
      match Text.Utf8.decode? bytes with
      | some cs => return String.ofList (Text.normalizeNewlines cs)
      | none => throw .undecodable

/-- Labels with texts, and warnings, each in the order in which they arise. -/
structure Gathered where
  contents : Fields String := []
  warnings : List String := []
  /-- What has ended the gathering before its time. -/
  fault : Option Fault := none
  deriving Repr, Inhabited

/-- What may go wrong with a pattern so that only this pattern is passed over: the system refuses a
path, or there is no such path or text. -/
def isForeseen : Fault → Bool
  | .file .. | .nulInPath | .undecodable => true
  | _ => false

/-- Add one file, unless its label is there already. -/
def gatherFile (c : Collector) (t : FileTree) (g : Gathered) (label : String) : Gathered :=
  if (g.contents.get? label).isSome then g
  else match c.textAt t label with
    | .ok text => { g with contents := g.contents ++ [(label, text)] }
    | .error e => { g with warnings := g.warnings ++ [s!"Could not read file {label}: {e.message}"] }

/-- Add the files of one pattern, unless a fault has ended the gathering. -/
def gatherPattern (c : Collector) (t : FileTree) (g : Gathered) (pattern : String) : Gathered :=
  if g.fault.isSome then g
  else match c.find t pattern with
    | .ok labels => labels.foldl (c.gatherFile t) g
    | .error e =>
      if isForeseen e then
        { g with
          warnings := g.warnings ++ [s!"Could not expand file pattern '{pattern}': {e.message}"] }
      else { g with fault := some e }

/-- The files of several patterns, each at the first pattern that matches it. -/
def gather (c : Collector) (t : FileTree) (patterns : List String) : Gathered :=
  patterns.foldl (c.gatherPattern t) {}

/-- `gather` in the world as it is, with the warnings logged. -/
def collect (c : Collector) (patterns : List String) : Act (Fields String) := do
  let g := c.gather (← get).files patterns
  g.warnings.forM Act.warn
  match g.fault with
  | some e => throw e
  | none => return g.contents

end Collector

/-- File contents as labelled blocks. -/
def renderFiles (contents : Fields String) : String :=
  "\n".intercalate (contents.map fun f => s!"--- {f.1} ---\n{f.2}\n")

end StepFlow

import StepFlow.Shell.Programs.Rules.Read

/-!
# Records and fields

A text is cut into records, and a record into fields, by separators: blanks, a single character, or an
expression. An empty separator of records stands for empty lines, an empty separator of fields for no
separator at all: every character is a field.

## Main definitions

* `Separator`, `Separator.parts`
* `RecordEnd`, `RecordEnd.next?`
-/

namespace StepFlow.Shell.Rules

/-- What stands between parts. -/
inductive Separator where
  | blanks
  /-- Nothing: every character is a part. -/
  | nothing
  | char (c : Char)
  | regex (r : Regex)
  deriving DecidableEq, Repr, Inhabited

namespace Separator

/-- The separator that a text stands for. A single character other than a blank stands for itself. -/
def ofText (cs : List Char) : Except RegexFault Separator :=
  match cs with
  | [] => return .nothing
  | [' '] => return .blanks
  | [c] => return .char c
  | cs => return .regex (← regexOf cs)

/-- The texts between matches that are not empty. -/
def betweenMatches (r : Regex) (cs : List Char) : List (List Char) :=
  let ms := Regex.matchesIn [r] cs fun m => m.stop.rest.length < m.start.rest.length
  let (parts, rest) := ms.foldl (fun ((found, rest) : List (List Char) × List Char) m =>
    (rest.take (rest.length - m.start.rest.length) :: found, m.stop.rest)) ([], cs)
  (rest :: parts).reverse

/-- The parts of a text; an empty text has none. With `lines`, line ends separate as well. -/
def parts (lines : Bool) (s : Separator) (cs : List Char) : List (List Char) :=
  if cs.isEmpty then []
  else match s with
    | blanks => (cs.splitOnP fun c => c = ' ' || c = '\t' || c = '\n').filter (!·.isEmpty)
    | nothing => cs.map ([·])
    | char c => cs.splitOnP fun d => d = c || (lines && d = '\n')
    | regex r => betweenMatches (if lines then .either r (Regex.char '\n') else r) cs

end Separator

/-- What ends a record. -/
inductive RecordEnd where
  | char (c : Char)
  | emptyLines
  | regex (r : Regex)
  deriving DecidableEq, Repr, Inhabited

namespace RecordEnd

def ofText (cs : List Char) : Except RegexFault RecordEnd :=
  match cs with
  | [] => return .emptyLines
  | [c] => return .char c
  | cs => return .regex (← regexOf cs)

/-- The text up to an empty line, and what follows all empty lines. -/
private def paragraph : List Char → List Char × List Char
  | [] => ([], [])
  | '\n' :: '\n' :: rest => ([], rest.dropWhile (· = '\n'))
  | ['\n'] => ([], [])
  | c :: rest =>
    let (inside, rest) := paragraph rest
    (c :: inside, rest)

/-- The first record of a text and what follows it, unless the text has ended. -/
def next? (e : RecordEnd) (cs : List Char) : Option (List Char × List Char) :=
  match e with
  | emptyLines =>
    let cs := cs.dropWhile (· = '\n')
    if cs.isEmpty then none else some (paragraph cs)
  | char c =>
    if cs.isEmpty then none
    else
      let (inside, rest) := cs.span (· ≠ c)
      some (inside, rest.drop 1)
  | regex r =>
    if cs.isEmpty then none
    else
      let accepted (m : Regex.Match) : Bool := m.stop.rest.length < m.start.rest.length
      match Regex.find? [r] ⟨[], cs, []⟩ accepted with
      | some m => some (cs.take (cs.length - m.start.rest.length), m.stop.rest)
      | none => some (cs, [])

end RecordEnd

end StepFlow.Shell.Rules

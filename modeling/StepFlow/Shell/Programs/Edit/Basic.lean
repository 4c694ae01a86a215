import StepFlow.Shell.Regex.Basic

/-!
# Edit scripts

A script of the stream editor is a sequence of commands. A command may be for certain lines only: for
one address, for a range between two, or for all others. Commands between braces are for the lines of
the opening one.

## Main definitions

* `EditAddress`, `EditAction`, `EditCommand`
-/

namespace StepFlow.Shell

/-- Which line is meant. -/
inductive EditAddress where
  | line (number : Nat)
  | last
  /-- A line in which an expression is found; `none` stands for the last expression used. -/
  | holding (r : Option Regex)
  /-- Every so many lines from one on. -/
  | every (first step : Nat)
  /-- So many lines behind the beginning of a range. -/
  | further (count : Nat)
  /-- The next line whose number is a multiple. -/
  | multiple (of : Nat)
  deriving DecidableEq, Repr, Inhabited

/-- A part of a replacement. -/
inductive EditPart where
  | text (chars : List Char)
  /-- What a group has matched; the number zero stands for the whole match. -/
  | group (number : Nat)
  /-- A change of case: of all that follows, or of the next character. -/
  | case (letter : Char)
  deriving DecidableEq, Repr, Inhabited

/-- The replacement of matches. -/
structure EditReplacement where
  pattern : Option Regex
  parts : List EditPart
  /-- The number of the first match that is replaced. -/
  first : Nat := 1
  all : Bool := false
  prints : Bool := false
  /-- A file that changed lines are written to. -/
  target : Option String := none
  deriving DecidableEq, Repr, Inhabited

inductive EditAction where
  | opening
  | closing
  | label (name : String)
  | number
  | append (text : List Char)
  | insert (text : List Char)
  | change (text : List Char)
  | jump (label : String)
  | jumpIfReplaced (label : String)
  | jumpUnlessReplaced (label : String)
  | delete
  | deleteFirst
  | fileName
  | takeHold
  | addHold
  | hold
  | addToHold
  | exchange
  | list (width : Option Nat)
  | next
  | addNext
  | print
  | printFirst
  | quit (status : Nat)
  | quitSilently (status : Nat)
  | readFile (name : String)
  | readLine (name : String)
  | write (name : String)
  | writeFirst (name : String)
  | substitute (r : EditReplacement)
  | exchangeChars (source target : List Char)
  | clear
  deriving DecidableEq, Repr, Inhabited

/-- A command and the lines that it is for. -/
structure EditCommand where
  first : Option EditAddress := none
  last : Option EditAddress := none
  negated : Bool := false
  action : EditAction
  deriving DecidableEq, Repr, Inhabited

end StepFlow.Shell

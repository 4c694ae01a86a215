import StepFlow.Number.Double
import StepFlow.Shell.Regex.Basic

/-!
# Rules for records

A set of rules tells what to do with the records of a text: each rule has a pattern, which selects
records, and an action. Actions are statements over variables, the fields of the record, and arrays
whose elements have texts as their keys.

## Main definitions

* `Expr`, `Statement` — what is computed and what is done
* `Rule`, `Procedure`, `RuleSet` — a whole script
-/

namespace StepFlow.Shell.Rules

/-- An operator on two numbers. -/
inductive Operator where
  | plus
  | minus
  | times
  | over
  | rest
  | power
  deriving DecidableEq, Repr, Inhabited

/-- How two values compare. -/
inductive Comparison where
  | less
  | lessOrSame
  | same
  | different
  | greater
  | greaterOrSame
  deriving DecidableEq, Repr, Inhabited

namespace Comparison

/-- The comparison holds of two values in such an order. -/
def holds : Comparison → Ordering → Bool
  | less, o => o = .lt
  | lessOrSame, o => o ≠ .gt
  | same, o => o = .eq
  | different, o => o ≠ .eq
  | greater, o => o = .gt
  | greaterOrSame, o => o ≠ .lt

end Comparison

/-- The routines that every script has. -/
inductive Routine where
  | length
  | index
  | substr
  | split
  | sub
  | gsub
  | matchOf
  | sprintf
  | toupper
  | tolower
  | int
  | sqrt
  | exp
  | log
  | sin
  | cos
  | atan2
  | rand
  | srand
  | system
  | close
  | fflush
  deriving DecidableEq, Repr, Inhabited

namespace Routine

def name : Routine → String
  | length => "length"
  | index => "index"
  | substr => "substr"
  | split => "split"
  | sub => "sub"
  | gsub => "gsub"
  | matchOf => "match"
  | sprintf => "sprintf"
  | toupper => "toupper"
  | tolower => "tolower"
  | int => "int"
  | sqrt => "sqrt"
  | exp => "exp"
  | log => "log"
  | sin => "sin"
  | cos => "cos"
  | atan2 => "atan2"
  | rand => "rand"
  | srand => "srand"
  | system => "system"
  | close => "close"
  | fflush => "fflush"

def all : List Routine :=
  [length, index, substr, split, sub, gsub, matchOf, sprintf, toupper, tolower, int, sqrt, exp, log, sin,
    cos, atan2, rand, srand, system, close, fflush]

def ofName? (s : String) : Option Routine := all.find? (·.name == s)

/-- The least and the greatest number of arguments. -/
def arity : Routine → Nat × Nat
  | length => (0, 1)
  | index | atan2 | matchOf => (2, 2)
  | substr | split | sub | gsub => (2, 3)
  | sprintf => (1, 1000)
  | toupper | tolower | int | sqrt | exp | log | sin | cos | system | close => (1, 1)
  | rand => (0, 0)
  | srand | fflush => (0, 1)

end Routine

/-- Where a record is read from, unless from the files of the script. -/
inductive Origin where
  | file
  | command
  deriving DecidableEq, Repr, Inhabited

/-- What is computed. -/
inductive Expr where
  | number (x : Double)
  | text (s : List Char)
  /-- A regular expression, which stands for whether the record matches it. -/
  | regex (r : Regex)
  | name (n : String)
  | field (number : Expr)
  | element (array : String) (key : List Expr)
  | assign (target value : Expr)
  | update (op : Operator) (target value : Expr)
  /-- Add one, or take one away, and give the value before or after. -/
  | step (givesNew up : Bool) (target : Expr)
  | choose (condition first second : Expr)
  | both (first second : Expr)
  | either (first second : Expr)
  | negation (e : Expr)
  /-- The number that a value denotes, or its opposite. -/
  | sign (isMinus : Bool) (e : Expr)
  | arithmetic (op : Operator) (first second : Expr)
  | compare (c : Comparison) (first second : Expr)
  | join (first second : Expr)
  | hasMatch (negated : Bool) (e pattern : Expr)
  | isIn (key : List Expr) (array : String)
  /-- Expressions between parentheses. -/
  | group (es : List Expr)
  | routine (r : Routine) (arguments : List Expr)
  | call (procedure : String) (arguments : List Expr)
  /-- Read a record; gives 1, 0 at the end, or -1. -/
  | readRecord (target : Option Expr) (source : Option (Origin × Expr))
  deriving Inhabited

/-- Where output goes, unless to the output of the script. -/
inductive Route where
  | file
  | fileEnd
  | command
  deriving DecidableEq, Repr, Inhabited

/-- What is done. -/
inductive Statement where
  | compute (e : Expr)
  | print (es : List Expr) (target : Option (Route × Expr))
  | printf (es : List Expr) (target : Option (Route × Expr))
  | block (parts : List Statement)
  | branch (condition : Expr) (first second : Statement)
  | loop (condition : Expr) (body : Statement)
  /-- The body comes before the first look at the condition. -/
  | loopOnce (body : Statement) (condition : Expr)
  | count (start : Statement) (condition : Option Expr) (step body : Statement)
  | forKeys (name array : String) (body : Statement)
  | leave
  | again
  | next
  | nextFile
  | exit (status : Option Expr)
  | giveBack (value : Option Expr)
  | delete (array : String) (key : Option (List Expr))
  deriving Inhabited

/-- When the action of a rule is carried out. -/
inductive Pattern where
  | always
  | start
  | finish
  | condition (e : Expr)
  /-- From a record that meets the first condition up to one that meets the second. -/
  | range (first last : Expr)
  deriving Inhabited

/-- A pattern with its action; without one, the record is printed. -/
structure Rule where
  pattern : Pattern
  action : Option Statement
  deriving Inhabited

/-- A procedure of the script itself. -/
structure Procedure where
  name : String
  parameters : List String
  body : Statement
  deriving Inhabited

/-- A whole script. -/
structure RuleSet where
  rules : List Rule := []
  procedures : List Procedure := []
  deriving Inhabited

end StepFlow.Shell.Rules

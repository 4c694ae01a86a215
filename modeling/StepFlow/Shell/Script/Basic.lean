/-!
# Shell scripts

What shell commands say: simple commands with assignments and redirections, pipelines, lists, groups,
conditions and loops. A word consists of pieces: text, quoted or not, and expansions. The text of an
expanded command stays unread until the expansion takes place.

## Main definitions

* `Piece`, `Word` — words
* `Redirect`, `Script` — commands
-/

namespace StepFlow.Shell

/-- What is done when a variable is read. -/
inductive VariableUse where
  | plain
  /-- The number of characters. -/
  | length
  /-- Another text if the variable is not set; or, with `orEmpty`, if it is empty. -/
  | default (orEmpty : Bool)
  /-- The same, and the variable is set to it. -/
  | assign (orEmpty : Bool)
  /-- A message, which ends the session, if the variable is not set; or, with `orEmpty`, if it is
  empty. -/
  | required (orEmpty : Bool)
  /-- Another text if the variable is set; or, with `orEmpty`, if it is not empty. -/
  | alternative (orEmpty : Bool)
  /-- Without the beginning that matches a pattern: the shortest one, or the longest. -/
  | withoutStart (longest : Bool)
  | withoutEnd (longest : Bool)
  deriving DecidableEq, Repr, Inhabited

/-- A piece of a word. Quoted pieces are neither split nor matched against names. -/
inductive Piece where
  | text (chars : List Char) (quoted : Bool)
  | variable (name : String) (use : VariableUse) (word : List Piece) (quoted : Bool)
  | arithmetic (expr : List Piece) (quoted : Bool)
  /-- The output of a command, which is not read yet. -/
  | output (command : List Char) (quoted : Bool)
  deriving Repr, Inhabited

abbrev Word := List Piece

/-- What a redirection does. -/
inductive RedirectKind where
  | input
  | output
  /-- Output to a file that may exist in any case. -/
  | overwrite
  | append
  /-- To where another descriptor leads. -/
  | duplicate
  /-- Input from the script itself. -/
  | inline
  deriving DecidableEq, Repr, Inhabited

structure Redirect where
  descriptor : Nat
  kind : RedirectKind
  target : Word
  deriving Repr, Inhabited

inductive Script where
  | simple (line : Nat) (assignments : List (String × Word)) (words : List Word)
      (redirects : List Redirect)
  | pipeline (negated : Bool) (parts : List Script)
  | both (first second : Script)
  | either (first second : Script)
  | sequence (parts : List Script)
  /-- What follows does not wait for it. -/
  | background (s : Script)
  | subshell (body : Script) (redirects : List Redirect)
  | group (body : Script) (redirects : List Redirect)
  | branch (condition thenPart elsePart : Script)
  | loop (untilTrue : Bool) (condition body : Script)
  | forEach (name : String) (words : List Word) (body : Script)
  | select (word : Word) (cases : List (List Word × Script))
  /-- A function is named. -/
  | define (name : String) (body : Script)
  deriving Repr, Inhabited

end StepFlow.Shell

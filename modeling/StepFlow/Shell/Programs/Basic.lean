import StepFlow.Number.Numeral
import StepFlow.Shell.Programs.Quoting
import StepFlow.Shell.Session

/-!
# What programs of the shell have in common

Programs read files or their input, write to their outputs and give an exit status. This module has
their type and what many of them need: lines, numbers, complaints, and reading several files.

Programs take text byte by byte. Where text is matched or taken apart, each byte counts as the
character of its number.

## Main definitions

* `Program`, `Launch`
* `linesOf`, `fullLines` — lines without and with their ends
* `readFiles` — the files that a program is given
-/

namespace StepFlow.Shell

/-- A program: with streams and arguments it acts and gives its exit status. -/
abbrev Program := Streams → List String → Acting Nat

/-- What carries out a program by its words: its exit status, or why it cannot be carried out. -/
abbrev Launch := List String → Acting (Except FileCause Nat)

/-- Carry out a program; one that a signal ends has failed. -/
def launchOutcome (launch : Launch) (words : List String) : Acting (Except FileCause Nat) := do
  match ← outcome (launch words) with
  | .ok r => return r
  | .error (.killed signal) => return .ok (128 + signal)
  | .error other => throw other

/-! ### Bytes and lines -/

def lineFeed : UInt8 := 10

/-- Bytes as the characters of their numbers. -/
def charsOf (bs : List UInt8) : List Char := bs.map fun b => Char.ofNat b.toNat

/-- The bytes that characters stand for. -/
def bytesOfChars (cs : List Char) : List UInt8 := cs.map fun c => UInt8.ofNat c.toNat

/-- The bytes of an argument as characters. -/
def argumentChars (s : String) : List Char := charsOf (bytesOf s)

/-- The pieces between marks; a mark at the end begins no further piece. -/
def piecesOf (mark : UInt8) (bs : List UInt8) : List (List UInt8) :=
  let parts := bs.splitOn mark
  if parts.getLast? = some [] then parts.dropLast else parts

/-- The lines of bytes, without their ends. -/
def linesOf (bs : List UInt8) : List (List UInt8) := piecesOf lineFeed bs

/-- The pieces that marks end, each with its mark; the last one may lack it. -/
def fullPieces (mark : UInt8) (bs : List UInt8) : List (List UInt8) :=
  match (bs.splitOn mark).reverse with
  | [] => []
  | last :: whole =>
    (whole.reverse.map (· ++ [mark])) ++ (if last.isEmpty then [] else [last])

/-- Lines with their ends. -/
def fullLines (bs : List UInt8) : List (List UInt8) := fullPieces lineFeed bs

def unlines (ls : List (List UInt8)) : List UInt8 := ls.flatMap (· ++ [lineFeed])

/-- Pieces, each ended by a mark. -/
def ended (mark : UInt8) (ls : List (List UInt8)) : List UInt8 := ls.flatMap (· ++ [mark])

/-- The mark that ends lines: NUL if a program is asked for it. -/
def lineMark (nul : Bool) : UInt8 := if nul then 0 else lineFeed

/-- Order of bytes. -/
def bytesLe : List UInt8 → List UInt8 → Bool
  | [], _ => true
  | _ :: _, [] => false
  | a :: as, b :: bs => if a = b then bytesLe as bs else a < b

def isBlankByte (b : UInt8) : Bool := b = 32 || b = 9

/-- Blanks and the control characters that move on. -/
def isSpaceByte (b : UInt8) : Bool := b = 32 || (9 ≤ b && b ≤ 13)

/-- Small letters in place of capital ones. -/
def lowerByte (b : UInt8) : UInt8 := if 65 ≤ b && b ≤ 90 then b + 32 else b

def upperByte (b : UInt8) : UInt8 := if 97 ≤ b && b ≤ 122 then b - 32 else b

/-! ### Numbers -/

/-- The decimal that a text denotes, digits only. -/
def natOf? (s : String) : Option Nat :=
  let cs := s.toList
  if !cs.isEmpty && cs.all Char.isDigit then some (digitsValue 10 (cs.filterMap asciiDigit?)) else none

def intOf? (s : String) : Option Int :=
  match s.toList with
  | '-' :: cs => (natOf? (String.ofList cs)).map fun n => -(n : Int)
  | '+' :: cs => (natOf? (String.ofList cs)).map Int.ofNat
  | _ => (natOf? s).map Int.ofNat

/-- What a letter behind a number multiplies it by. -/
private def unit? (s : List Char) : Option Nat :=
  let power (c : Char) : Option Nat :=
    ("KMGTPEZY".toList.idxOf? (if c = 'k' || c = 'm' then c.toUpper else c)).map (· + 1)
  match s with
  | [] => some 1
  | ['b'] => some 512
  | [c] | [c, 'i', 'B'] => (power c).map fun n => twoTo (10 * n)
  | [c, 'B'] => (power c).map fun n => tenTo (3 * n)
  | _ => none

/-- A number of bytes or lines, such as `12` or `3K`. -/
def amount? (s : String) : Option Nat := do
  let cs := s.toList
  let cs := if cs.head? = some '+' then cs.drop 1 else cs
  let digits := cs.takeWhile Char.isDigit
  let unit ← unit? (cs.drop digits.length)
  if digits.isEmpty then none
  else return digitsValue 10 (digits.filterMap asciiDigit?) * unit

/-- A number in a column of a width. -/
def aligned (width n : Nat) : String :=
  let s := toString n
  String.ofList (List.replicate (width - s.length) ' ') ++ s

/-! ### Complaints -/

/-- The line that leads to a program's help. -/
def helpHint (name : String) : String := s!"Try '{name} --help' for more information.\n"

/-- The exit status of a program that has done all it was asked for, or not. -/
def statusOf (complete : Bool) : Nat := if complete then 0 else 1

/-- A program is given too few arguments. -/
def missingOperand (st : Streams) (name : String) : Acting Nat := do
  emitText st.err (s!"{name}: missing operand\n" ++ helpHint name)
  return 1

/-- A program is given too many arguments; the first that is too many is shown. -/
def extraOperand (st : Streams) (name operand : String) : Acting Nat := do
  let shown := quotedPhrase operand
  emitText st.err (s!"{name}: extra operand {shown}\n" ++ helpHint name)
  return 1

/-- A file cannot be read or found. -/
def missing (name : String) (p : String) (e : FileCause) : String :=
  let shown := shownName p
  s!"{name}: {shown}: {e.description}"

/-! ### Files -/

/-- The bytes of a file; a hyphen stands for the input. -/
def fileOrInput (name : String) : Acting (Except FileCause (List UInt8)) := do
  if name = "-" then return .ok (← takeInput) else bytesAt name

/-- Deal with each of several files in turn, or with the input if there are none. A file that cannot
be read is reported; the status tells whether there was one. -/
def forFiles (st : Streams) (complain : String → FileCause → String) (names : List String)
    (act : String → List UInt8 → Acting Unit) : Acting Nat := do
  let mut complete := true
  for name in (if names.isEmpty then ["-"] else names) do
    match ← fileOrInput name with
    | .ok bs => act name bs
    | .error e =>
      emitText st.err (complain name e ++ "\n")
      complete := false
  return statusOf complete

/-- The bytes of several files, or of the input if there are none, and whether all could be read. -/
def readFiles (st : Streams) (complain : String → FileCause → String) (names : List String) :
    Acting (List (String × List UInt8) × Bool) := do
  let mut found := []
  let mut complete := true
  for name in (if names.isEmpty then ["-"] else names) do
    match ← fileOrInput name with
    | .ok bs => found := found ++ [(name, bs)]
    | .error e =>
      emitText st.err (complain name e ++ "\n")
      complete := false
  return (found, complete)

end StepFlow.Shell

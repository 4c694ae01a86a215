import StepFlow.Shell.Programs.Basic

/-!
# Conditions

Tests of files, texts and numbers, joined by `!`, `-a`, `-o` and parentheses. Reading stops at the
first word that cannot go on; what is left is a mistake. A word that looks like an operator is an
operand where an operand has to stand.

## Main definitions

* `condition` — the value of a condition
* `test`, `bracket` — the programs
-/

namespace StepFlow.Shell

/-- What an operator stands between or before. -/
private inductive ConditionOperator where
  | unary
  | binary
  | not
  | and
  | or
  | opening
  | closing
  deriving DecidableEq

private def operatorOf? (word : String) : Option ConditionOperator :=
  if ["-r", "-w", "-x", "-e", "-f", "-d", "-c", "-b", "-p", "-u", "-g", "-k", "-s", "-t", "-z", "-n",
      "-h", "-O", "-G", "-L", "-S"].contains word then some .unary
  else if ["=", "!=", "<", ">", "-eq", "-ne", "-gt", "-ge", "-lt", "-le", "-nt", "-ot", "-ef"].contains
      word then some .binary
  else match word with
    | "!" => some .not
    | "-a" => some .and
    | "-o" => some .or
    | "(" => some .opening
    | ")" => some .closing
    | _ => none

/-- The operator that the first word is, unless it has to be an operand because of what follows. -/
private def leading? : List String → Option ConditionOperator
  | [] => none
  | word :: rest =>
    match operatorOf? word with
    | some .unary =>
      match rest with
      | [] => none
      | [_] => some .unary
      | next :: _ => if operatorOf? next = some .binary then none else some .unary
    | some .opening => if rest.isEmpty then none else some .opening
    | op => op

/-- A condition with one operand. -/
private def unaryHolds (s : Session) (op arg : String) : Bool :=
  match op with
  | "-n" => arg ≠ ""
  | "-z" => arg = ""
  | "-f" => s.files.isFile s.here arg
  | "-d" => s.files.isDirectory s.here arg
  | "-e" | "-r" | "-w" | "-O" | "-G" => s.files.exists? s.here arg || arg = nullFile
  | "-c" => arg = nullFile
  | "-x" =>
    s.files.isDirectory s.here arg ||
      ((s.files.locate s.here arg).toOption.any fun p => s.runnable.contains p)
  | "-s" =>
    match s.files.stat s.here arg with
    | .ok (.file bytes) => !bytes.isEmpty
    | .ok .directory => true
    | .error _ => false
  | _ => false

/-- The number that an operand denotes. -/
private def operandNumber (word : String) : Except String Int :=
  match intOf? (String.ofList ((word.toList.dropWhile Char.isWhitespace).reverse.dropWhile
    Char.isWhitespace).reverse) with
  | some n => return n
  | none => throw s!"Illegal number: {word}"

/-- A condition with two operands. -/
private def binaryHolds (s : Session) (a op b : String) : Except String Bool := do
  let numbers (f : Int → Int → Bool) : Except String Bool := do
    let m ← operandNumber a
    let n ← operandNumber b
    return f m n
  match op with
  | "=" => return a = b
  | "!=" => return a ≠ b
  | "<" => return !textLe b a
  | ">" => return !textLe a b
  | "-eq" => numbers (· == ·)
  | "-ne" => numbers (· != ·)
  | "-lt" => numbers fun m n => m < n
  | "-le" => numbers fun m n => m ≤ n
  | "-gt" => numbers fun m n => n < m
  | "-ge" => numbers fun m n => n ≤ m
  | "-ef" => return (s.files.locate s.here a).toOption = (s.files.locate s.here b).toOption &&
      s.files.exists? s.here a
  | _ => return false

/-- A part of a condition that has been read: its value, and the words from the last one read on. -/
private abbrev ConditionReader := List String → Except String (Bool × List String)

mutual

/-- Conditions joined by `-o`. -/
private def disjunction (s : Session) : (fuel : Nat) → ConditionReader
  | 0, _ => throw "too long"
  | fuel + 1, words => do
    let (a, at') ← conjunction s fuel words
    if leading? (at'.drop 1) = some .or then
      let (b, at') ← disjunction s fuel (at'.drop 2)
      return (a || b, at')
    else return (a, at')

/-- Conditions joined by `-a`. -/
private def conjunction (s : Session) : (fuel : Nat) → ConditionReader
  | 0, _ => throw "too long"
  | fuel + 1, words => do
    let (a, at') ← negation s fuel words
    if leading? (at'.drop 1) = some .and then
      let (b, at') ← conjunction s fuel (at'.drop 2)
      return (a && b, at')
    else return (a, at')

private def negation (s : Session) : (fuel : Nat) → ConditionReader
  | 0, _ => throw "too long"
  | fuel + 1, words => do
    if leading? words = some .not then
      match words.drop 1 with
      | [] => return (true, words)
      | rest =>
        let (a, at') ← negation s fuel rest
        return (!a, at')
    else single s fuel words

private def single (s : Session) : (fuel : Nat) → ConditionReader
  | 0, _ => throw "too long"
  | fuel + 1, words => do
    match words, leading? words with
    | [], _ => return (false, [])
    | _ :: rest, some .opening =>
      if leading? rest = some .closing then return (false, rest)
      else
        let (a, at') ← disjunction s fuel rest
        if leading? (at'.drop 1) = some .closing then return (a, at'.drop 1)
        else throw "closing paren expected"
    | op :: rest, some .unary =>
      match rest with
      | [] => throw s!"{op}: argument expected"
      | arg :: _ => return (unaryHolds s op arg, rest)
    | a :: rest, _ =>
      match rest, leading? rest with
      | op :: operand, some .binary =>
        match operand with
        | [] => throw s!"{op}: argument expected"
        | b :: _ => return (← binaryHolds s a op b, operand)
      | _, _ => return (a ≠ "", words)

end

/-- The value of a condition, or what is wrong with it. Three words with an operator between two
operands are just that; otherwise a leading `!` negates what follows, and parentheses around three or
four words enclose a condition. -/
def condition (s : Session) (words : List String) : Except String Bool := do
  let general (words : List String) : Except String Bool := do
    let (a, at') ← disjunction s (4 * words.length + 4) words
    match at' with
    | word :: _ :: _ => throw s!"{word}: unexpected operator"
    | _ => return a
  match words with
  | [] => return false
  | [a, op, b] =>
    if operatorOf? op = some .binary then binaryHolds s a op b
    else if a = "(" && b = ")" then general [op]
    else if a = "!" then return !(← general [op, b])
    else general words
  | [a, b, c, d] =>
    if a = "(" && d = ")" then general [b, c]
    else if a = "!" then
      if operatorOf? c = some .binary then return !(← binaryHolds s b c d)
      else return !(← general [b, c, d])
    else general words
  | words => general words

/-- Test a condition. -/
def test : Program := fun _ words => do
  match condition (← get) words with
  | .ok b => return if b then 0 else 1
  | .error message =>
    complain message
    return 2

/-- Test a condition between brackets. -/
def bracket : Program := fun st args => do
  if args.getLast? = some "]" then test st args.dropLast
  else
    complain "missing ]"
    return 2

end StepFlow.Shell

import StepFlow.Fields
import StepFlow.Number.Numeral

/-!
# Arithmetic of the shell

Expressions over whole numbers of 64 bits, with variables. A variable that is not set counts as zero.

## Main definitions

* `Expr`, `Expr.read` — expressions
* `Expr.value` — the value of an expression, which may set variables
-/

namespace StepFlow.Shell

/-- An operator between two operands. -/
inductive Operator where
  | or | and
  | bitOr | bitXor | bitAnd
  | equal | unequal
  | less | lessEqual | greater | greaterEqual
  | shiftLeft | shiftRight
  | add | sub
  | mul | div | mod
  deriving DecidableEq, Repr, Inhabited

/-- An operator before its operand. -/
inductive Sign where
  | plus | minus | not | complement
  deriving DecidableEq, Repr, Inhabited

/-- An arithmetic expression. -/
inductive Expr where
  | number (n : Int)
  | variable (name : String)
  | signed (sign : Sign) (e : Expr)
  | binary (op : Operator) (left right : Expr)
  | choice (condition thenPart elsePart : Expr)
  /-- The variable gets the value, or the result of an operator with its old value. -/
  | assign (name : String) (op : Option Operator) (e : Expr)
  deriving DecidableEq, Repr, Inhabited

/-! ### Tokens -/

/-- A part of the text of an expression. -/
inductive ArithmeticToken where
  | number (n : Nat)
  | name (s : String)
  | mark (s : String)
  deriving DecidableEq, Repr

/-- Marks, longer ones before their beginnings. -/
private def marks : List String :=
  ["<<=", ">>=", "||", "&&", "==", "!=", "<=", ">=", "<<", ">>", "+=", "-=", "*=", "/=", "%=", "&=",
   "^=", "|=", "|", "^", "&", "<", ">", "+", "-", "*", "/", "%", "!", "~", "?", ":", "=", "(", ")"]

/-- The greatest number. -/
def greatest : Nat := twoTo 63 - 1

/-- The number that digits denote: hexadecimal behind `0x`, octal behind `0`; the greatest one if they
denote more. -/
private def numberToken (cs : List Char) : Option Nat :=
  Option.map (min greatest) <| match cs with
  | '0' :: 'x' :: ds => (ds.mapM asciiDigit?).map (digitsValue 16)
  | '0' :: ds =>
    if ds.all fun c => '0' ≤ c && c ≤ '7' then some (digitsValue 8 (ds.filterMap asciiDigit?)) else none
  | ds => if ds.all Char.isDigit then some (digitsValue 10 (ds.filterMap asciiDigit?)) else none

/-- The tokens of a text; `none` if something in it is none. -/
private def tokens : (fuel : Nat) → List Char → Option (List ArithmeticToken)
  | 0, _ => none
  | _, [] => some []
  | fuel + 1, c :: rest =>
    if c.isWhitespace then tokens fuel rest
    else if c.isDigit then do
      let digits := c :: rest.takeWhile Char.isAlphanum
      return .number (← numberToken digits) :: (← tokens fuel (rest.drop (digits.length - 1)))
    else if c.isAlpha || c = '_' then do
      let name := c :: rest.takeWhile fun d => d.isAlphanum || d = '_'
      return .name (String.ofList name) :: (← tokens fuel (rest.drop (name.length - 1)))
    else do
      let m ← marks.find? fun m => m.toList.isPrefixOf (c :: rest)
      return .mark m :: (← tokens fuel (rest.drop (m.length - 1)))

/-! ### Reading -/

/-- An operator by its mark, and how tightly it binds. -/
private def operator? (mark : String) : Option (Operator × Nat) :=
  match mark with
  | "||" => some (.or, 1)
  | "&&" => some (.and, 2)
  | "|" => some (.bitOr, 3)
  | "^" => some (.bitXor, 4)
  | "&" => some (.bitAnd, 5)
  | "==" => some (.equal, 6)
  | "!=" => some (.unequal, 6)
  | "<" => some (.less, 7)
  | "<=" => some (.lessEqual, 7)
  | ">" => some (.greater, 7)
  | ">=" => some (.greaterEqual, 7)
  | "<<" => some (.shiftLeft, 8)
  | ">>" => some (.shiftRight, 8)
  | "+" => some (.add, 9)
  | "-" => some (.sub, 9)
  | "*" => some (.mul, 10)
  | "/" => some (.div, 10)
  | "%" => some (.mod, 10)
  | _ => none

/-- The operator that an assignment applies; `none` inside for a plain one. -/
private def assigning? (mark : String) : Option (Option Operator) :=
  if mark = "=" then some none
  else if ["+=", "-=", "*=", "/=", "%=", "<<=", ">>=", "&=", "^=", "|="].contains mark then
    some ((operator? (String.ofList mark.toList.dropLast)).map (·.1))
  else none

private def sign? : String → Option Sign
  | "+" => some .plus
  | "-" => some .minus
  | "!" => some .not
  | "~" => some .complement
  | _ => none

/-- An expression at the beginning of tokens, and the tokens behind it. -/
private abbrev ExprReader := List ArithmeticToken → Except String (Expr × List ArithmeticToken)

mutual

/-- An assignment, a choice or an expression with operators. -/
private def whole : (fuel : Nat) → ExprReader
  | 0, _ => throw "expecting primary"
  | fuel + 1, ts => do
    match ts with
    | .name n :: .mark m :: rest =>
      match assigning? m with
      | some op =>
        let (e, rest) ← whole fuel rest
        return (.assign n op e, rest)
      | none => choice fuel ts
    | ts => choice fuel ts

private def choice : (fuel : Nat) → ExprReader
  | 0, _ => throw "expecting primary"
  | fuel + 1, ts => do
    let (c, rest) ← operands fuel 1 ts
    match rest with
    | .mark "?" :: rest =>
      let (a, rest) ← whole fuel rest
      match rest with
      | .mark ":" :: rest =>
        let (b, rest) ← choice fuel rest
        return (.choice c a b, rest)
      | _ => throw "expecting ':'"
    | rest => return (c, rest)

/-- Operands joined by operators that bind at least as tightly as `level`. -/
private def operands : (fuel level : Nat) → ExprReader
  | 0, _, _ => throw "expecting primary"
  | fuel + 1, level, ts => do
    let (e, rest) ← operand fuel ts
    continued fuel level e rest

private def continued : (fuel level : Nat) → Expr → ExprReader
  | 0, _, e, ts => return (e, ts)
  | fuel + 1, level, e, ts => do
    match ts with
    | .mark m :: rest =>
      match operator? m with
      | some (op, l) =>
        if l < level then return (e, ts)
        else
          let (right, rest) ← operands fuel (l + 1) rest
          continued fuel level (.binary op e right) rest
      | none => return (e, ts)
    | ts => return (e, ts)

private def operand : (fuel : Nat) → ExprReader
  | 0, _ => throw "expecting primary"
  | fuel + 1, ts => do
    match ts with
    | .number n :: rest => return (.number n, rest)
    | .name n :: rest => return (.variable n, rest)
    | .mark "(" :: rest =>
      let (e, rest) ← whole fuel rest
      match rest with
      | .mark ")" :: rest => return (e, rest)
      | _ => throw "expecting ')'"
    | .mark m :: rest =>
      match sign? m with
      | some s =>
        let (e, rest) ← operand fuel rest
        return (.signed s e, rest)
      | none => throw "expecting primary"
    | [] => throw "expecting primary"

end

/-- The expression that a text denotes, or why it denotes none. -/
def Expr.read (text : List Char) : Except String Expr := do
  match tokens (text.length + 1) text with
  | none => throw "expecting EOF"
  | some ts =>
    match ← whole (16 * ts.length + 16) ts with
    | (e, []) => return e
    | _ => throw "expecting EOF"

/-! ### Values -/

/-- A number reduced to 64 bits with a sign. -/
def wrapped (n : Int) : Int := n.bmod (twoTo 64)

private def ofBool (b : Bool) : Int := if b then 1 else 0

private def bits (f : Nat → Nat → Nat) (a b : Int) : Int :=
  f (a.emod (twoTo 64)).toNat (b.emod (twoTo 64)).toNat

/-- The result of an operator; a message if it has none. -/
def Operator.result (op : Operator) (a b : Int) : Except String Int :=
  wrapped <$> match op with
  | .or => return ofBool (a ≠ 0 || b ≠ 0)
  | .and => return ofBool (a ≠ 0 && b ≠ 0)
  | .bitOr => return bits (· ||| ·) a b
  | .bitXor => return bits (· ^^^ ·) a b
  | .bitAnd => return bits (· &&& ·) a b
  | .equal => return ofBool (a = b)
  | .unequal => return ofBool (a ≠ b)
  | .less => return ofBool (a < b)
  | .lessEqual => return ofBool (a ≤ b)
  | .greater => return ofBool (b < a)
  | .greaterEqual => return ofBool (b ≤ a)
  | .shiftLeft => return a * twoTo (b.emod 64).toNat
  | .shiftRight => return a.fdiv (twoTo (b.emod 64).toNat)
  | .add => return a + b
  | .sub => return a - b
  | .mul => return a * b
  | .div => if b = 0 then throw "division by zero" else return a.tdiv b
  | .mod => if b = 0 then throw "division by zero" else return a.tmod b

/-- What keeps an expression from having a value. -/
inductive ArithmeticFault where
  /-- A message about the expression. -/
  | expression (message : String)
  /-- The value of a variable is no number. -/
  | illegalNumber (text : String)
  deriving DecidableEq, Repr

/-- The number that the value of a variable denotes. -/
private def variableNumber (text : String) : Except ArithmeticFault Int :=
  let (negative, body) := splitSign (text.toList.dropWhile Char.isWhitespace)
  if text = "" then return 0
  else match if body.isEmpty then none else numberToken body with
    | some n => return wrapped (if negative then -(n : Int) else n)
    | none => throw (.illegalNumber text)

private abbrev Valuing := StateT (Fields String) (Except ArithmeticFault)

private def result (op : Operator) (a b : Int) : Valuing Int :=
  match op.result a b with
  | .ok n => return n
  | .error m => throw (.expression m)

/-- The value of an expression, which may set variables. Of a choice only one side is looked at, and
of `&&` and `||` the right one only if it counts. -/
def Expr.value : Expr → StateT (Fields String) (Except ArithmeticFault) Int
  | .number n => return wrapped n
  | .variable name => do variableNumber (((← get).get? name).getD "")
  | .signed sign e => do
    let n ← e.value
    return wrapped <| match sign with
      | .plus => n
      | .minus => -n
      | .not => ofBool (n = 0)
      | .complement => -n - 1
  | .binary .and a b => do
    if (← a.value) = 0 then return 0 else return ofBool ((← b.value) ≠ 0)
  | .binary .or a b => do
    if (← a.value) ≠ 0 then return 1 else return ofBool ((← b.value) ≠ 0)
  | .binary op a b => do
    let m ← a.value
    let n ← b.value
    result op m n
  | .choice c a b => do
    if (← c.value) ≠ 0 then a.value else b.value
  | .assign name op e => do
    let n ← e.value
    let n ← match op with
      | none => pure n
      | some op => do
        let old ← variableNumber (((← get).get? name).getD "")
        result op old n
    modify (·.set name (toString n))
    return n

end StepFlow.Shell

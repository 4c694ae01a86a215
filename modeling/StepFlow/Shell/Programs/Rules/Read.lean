import StepFlow.Shell.Programs.Rules.Token
import StepFlow.Shell.Regex.Read

/-!
# Reading rules

The tokens of a script as rules and procedures. Operators bind in levels, from the loosest, a choice
between two expressions, to the tightest, the sign of a field. Two expressions side by side are joined.
In a statement that prints, an angle bracket outside parentheses leads to a file.

## Main definitions

* `regexOf` — the expression between slashes or in a text
* `RuleSet.ofText`
-/

namespace StepFlow.Shell.Rules

/-! ### Regular expressions -/

/-- A class of characters, from behind its opening bracket: its members, those that need a place of
their own, and what follows its closing bracket. -/
private def classParts : (fuel : Nat) → List Char → Option (List Char × List Char × List Char)
  | 0, _ | _, [] => none
  | _, ']' :: rest => some ([], [], rest)
  | fuel + 1, '[' :: ':' :: rest => do
    let word := rest.takeWhile (· ≠ ':')
    let (members, late, rest) ← classParts fuel (rest.drop (word.length + 2))
    return ('[' :: ':' :: word ++ [':', ']'] ++ members, late, rest)
  | fuel + 1, '\\' :: rest => do
    let (c, rest) ← match escapeOf? rest, rest with
      | some found, _ => some found
      | none, c :: rest => some (c, rest)
      | none, [] => none
    let (members, late, rest) ← classParts fuel rest
    return if c = ']' || c = '^' || c = '-' then (members, c :: late, rest) else (c :: members, late, rest)
  | fuel + 1, c :: rest => do
    let (members, late, rest) ← classParts fuel rest
    return (c :: members, late, rest)

/-- A class with its brackets, written so that a backslash in it stands for itself. -/
private def classText (cs : List Char) : Option (List Char × List Char) := do
  let (lead, rest) := match cs with
    | '^' :: rest => (['[', '^'], rest)
    | rest => (['['], rest)
  let (first, rest) := match rest with
    | ']' :: rest => ([']'], rest)
    | rest => ([], rest)
  let (members, late, rest) ← classParts (rest.length + 1) rest
  let closing := (first ++ late.filter (· = ']')).take 1
  return (lead ++ closing ++ members ++ (late.filter (· = '^')).take 1 ++ (late.filter (· = '-')).take 1
    ++ [']'], rest)

/-- An expression in which only operators have backslashes before them. -/
private def operatorsOnly : (fuel : Nat) → List Char → List Char
  | 0, cs => cs
  | _, [] => []
  | fuel + 1, '[' :: rest =>
    match classText rest with
    | some (text, rest) => text ++ operatorsOnly fuel rest
    | none => '[' :: operatorsOnly fuel rest
  | fuel + 1, '\\' :: c :: rest =>
    let kept (d : Char) : List Char :=
      if "\\.[]()*+?|^$\x7b\x7d".toList.contains d then ['\\', d] else [d]
    match escapeOf? (c :: rest) with
    | some (d, rest) => kept d ++ operatorsOnly fuel rest
    | none => kept c ++ operatorsOnly fuel rest
  | fuel + 1, c :: rest =>
    if c = '\x7b' || c = '\x7d' then '\\' :: c :: operatorsOnly fuel rest
    else c :: operatorsOnly fuel rest

/-- The regular expression that a text denotes. Braces stand for themselves. -/
def regexOf (cs : List Char) : Except RegexFault Regex :=
  (Regex.read { extended := true, isStrict := true } (operatorsOnly cs.length cs)).map (·.1)

/-- What is said of a text that is no expression. -/
def regexComplaint (fault : RegexFault) (cs : List Char) : String :=
  let reason := match fault with
    | .nothingRepeated => "missing operand"
    | .unmatchedOpening => "missing ')'"
    | .unmatchedBracket => "bad class -- [], [^] or ["
    | other => other.message
  let shown := String.ofList cs
  s!"regular expression compile failed ({reason})\n{shown}"

/-! ### Reading tokens -/

/-- A call of a procedure in a script. -/
structure ProcedureCall where
  name : String
  arguments : Nat
  line : Nat
  deriving DecidableEq, Repr, Inhabited

/-- What is left to read, and what it stands in. -/
private structure Remaining where
  tokens : List Placed
  /-- How many parentheses and braces are open. -/
  parentheses : Nat := 0
  braces : Nat := 0
  inProcedure : Bool := false
  /-- In an action for the start or the end. -/
  inEdge : Bool := false
  /-- The calls read so far. -/
  calls : List ProcedureCall := []

private abbrev Parsing := StateT Remaining (Except Mistake)

private def placed : Parsing Placed := return (← get).tokens.headD ⟨.ending, 1⟩

private def peek : Parsing Token := return (← placed).token

private def mistake {α : Type} (message : String) : Parsing α := do
  let line := (← placed).line
  throw ⟨s!"line {line}: {message}"⟩

/-- The next token does not fit. -/
private def unfit {α : Type} : Parsing α := do
  let s ← get
  let p ← placed
  let isClosing := p.token = .mark "\x7d"
  if p.token = .ending && 0 < s.braces then
    throw ⟨s!"line {p.line + 1}: missing " ++ "\x7d near end of file"⟩
  else if isClosing && 0 < s.parentheses then mistake "missing ) near \x7d"
  else if p.token = .mark ")" && s.parentheses = 0 then mistake "extra ')'"
  else mistake s!"syntax error at or near {p.token.shown}"

private def advance : Parsing Unit := do
  let token ← peek
  modify fun s =>
    let s := { s with tokens := s.tokens.drop 1 }
    match token with
    | .mark "(" => { s with parentheses := s.parentheses + 1 }
    | .mark ")" => { s with parentheses := s.parentheses - 1 }
    | .mark "\x7b" => { s with braces := s.braces + 1 }
    | .mark "\x7d" => { s with braces := s.braces - 1 }
    | _ => s

/-- Pass over a mark if it comes next. -/
private def accept (m : String) : Parsing Bool := do
  if (← peek) = .mark m then
    advance
    return true
  else return false

private def need (m : String) : Parsing Unit := do
  unless ← accept m do unfit

private def skipMarks (ms : List String) : (fuel : Nat) → Parsing Unit
  | 0 => return
  | fuel + 1 => do
    match ← peek with
    | .mark m =>
      if ms.contains m then
        advance
        skipMarks ms fuel
    | _ => return

private def skipLines : Parsing Unit := do skipMarks ["\n"] (← get).tokens.length

private def skipEnds : Parsing Unit := do skipMarks ["\n", ";"] (← get).tokens.length

private def arrayName : Parsing String := do
  match ← peek with
  | .name n =>
    advance
    return n
  | _ => unfit

/-! ### Expressions -/

/-- An expression that something can be assigned to. -/
private def isTarget : Expr → Bool
  | .name _ | .field _ | .element .. => true
  | _ => false

/-- What an operator in front of an equals sign does. -/
private def updateOf? : String → Option Operator
  | "+=" => some .plus
  | "-=" => some .minus
  | "*=" => some .times
  | "/=" => some .over
  | "%=" => some .rest
  | "^=" => some .power
  | _ => none

private def comparisonOf? : String → Option Comparison
  | "<" => some .less
  | "<=" => some .lessOrSame
  | "==" => some .same
  | "!=" => some .different
  | ">" => some .greater
  | ">=" => some .greaterOrSame
  | _ => none

private def productOf? : String → Option Operator
  | "*" => some .times
  | "/" => some .over
  | "%" => some .rest
  | _ => none

/-- An operand may begin with the token, so that it is joined to the one before it. -/
private def beginsOperand : Token → Bool
  | .number _ | .text _ | .regex _ | .name _ | .callee _ | .routine _ => true
  | .mark m => ["$", "!", "(", "-", "+", "++", "--"].contains m
  | _ => false

/-- The level of operands, behind those of the operators with two of them. -/
private def operandLevel : Nat := 8

/-- The keys that stand for an element. -/
private def keysOf : Expr → List Expr
  | .group es => es
  | e => [e]

/-- Whether a command's output is read next. -/
private def readsCommand : Parsing Bool := do
  match (← get).tokens with
  | ⟨.mark "|", _⟩ :: ⟨.keyword "getline", _⟩ :: _ => return true
  | _ => return false

/-- An expression in the place of a pattern: a text there is read as a regular expression. -/
private def patternOf : Expr → Parsing Expr
  | .text s =>
    match regexOf s with
    | .error fault => mistake (regexComplaint fault s)
    | .ok r => return .regex r
  | e => return e

/-- The arguments of a routine, one of which may be a pattern. -/
private def patternsOf : Routine → List Expr → Parsing (List Expr)
  | .sub, p :: rest | .gsub, p :: rest => return (← patternOf p) :: rest
  | .matchOf, [x, p] => return [x, ← patternOf p]
  | _, es => return es

mutual

/-- An expression; a `wide` one may compare by an angle bracket. -/
private def expression : (fuel : Nat) → (wide : Bool) → Parsing Expr
  | 0, _ => unfit
  | fuel + 1, wide => do
    let e ← level fuel wide 0
    if ← accept "?" then
      skipLines
      let first ← expression fuel wide
      skipLines
      need ":"
      skipLines
      return .choose e first (← expression fuel wide)
    else return e

/-- Operands with operators of a level or a tighter one. -/
private def level : (fuel : Nat) → (wide : Bool) → Nat → Parsing Expr
  | 0, _, _ => unfit
  | fuel + 1, wide, n => do
    if n = operandLevel then unary fuel wide
    else furtherOperands fuel wide n (← level fuel wide (n + 1))

/-- The operands of a level behind a first one. -/
private def furtherOperands : (fuel : Nat) → (wide : Bool) → Nat → Expr → Parsing Expr
  | 0, _, _, _ => unfit
  | fuel + 1, wide, n, first => do
    let goOn (build : Expr → Expr) : Parsing Expr := do
      advance
      if n < 2 then skipLines
      furtherOperands fuel wide n (build (← level fuel wide (n + 1)))
    match n, ← peek with
    | 0, .mark "||" => goOn (.either first ·)
    | 1, .mark "&&" => goOn (.both first ·)
    | 2, .keyword "in" =>
      advance
      furtherOperands fuel wide n (.isIn (keysOf first) (← arrayName))
    | 3, .mark "~" =>
      advance
      let pattern ← patternOf (← level fuel wide (n + 1))
      furtherOperands fuel wide n (.hasMatch false first pattern)
    | 3, .mark "!~" =>
      advance
      let pattern ← patternOf (← level fuel wide (n + 1))
      furtherOperands fuel wide n (.hasMatch true first pattern)
    | 4, .mark m =>
      match comparisonOf? m with
      | some c => if m = ">" && !wide then return first else goOn (.compare c first ·)
      | none => return first
    | 5, token =>
      if beginsOperand token && token ≠ .mark "-" && token ≠ .mark "+" then
        furtherOperands fuel wide n (.join first (← level fuel wide (n + 1)))
      else return first
    | 6, .mark "+" => goOn (.arithmetic .plus first ·)
    | 6, .mark "-" => goOn (.arithmetic .minus first ·)
    | 6, .mark "|" =>
      if ← readsCommand then
        advance
        advance
        let target ← recordTarget fuel
        furtherOperands fuel wide n (.readRecord target (some (.command, first)))
      else return first
    | 7, .mark m =>
      match productOf? m with
      | some op => goOn (.arithmetic op first ·)
      | none => return first
    | _, _ => return first

/-- An operand with signs before it, or a power. -/
private def unary : (fuel : Nat) → (wide : Bool) → Parsing Expr
  | 0, _ => unfit
  | fuel + 1, wide => do
    if ← accept "!" then return .negation (← unary fuel wide)
    else if ← accept "-" then return .sign true (← unary fuel wide)
    else if ← accept "+" then return .sign false (← unary fuel wide)
    else
      let e ← operand fuel (some wide)
      if ← accept "^" then return .arithmetic .power e (← unary fuel wide) else return e

/-- An operand. Where it may be assigned to, `assigned` tells whether the value may be wide. -/
private def operand : (fuel : Nat) → (assigned : Option Bool) → Parsing Expr
  | 0, _ => unfit
  | fuel + 1, assigned => do
    let e ← primary fuel
    if !isTarget e then return e
    match ← peek with
    | .mark "++" =>
      advance
      return .step false true e
    | .mark "--" =>
      advance
      return .step false false e
    | .mark m =>
      match assigned, updateOf? m with
      | some wide, some op =>
        advance
        skipLines
        return .update op e (← expression fuel wide)
      | some wide, none =>
        if ← accept "=" then
          skipLines
          return .assign e (← expression fuel wide)
        else return e
      | none, _ => return e
    | _ => return e

/-- An operand without anything behind it. -/
private def primary : (fuel : Nat) → Parsing Expr
  | 0 => unfit
  | fuel + 1 => do
    match ← peek with
    | .number x =>
      advance
      return .number x
    | .text s =>
      advance
      return .text s
    | .regex s =>
      let pattern ← patternOf (.text s)
      advance
      return pattern
    | .name n =>
      advance
      if ← accept "[" then
        let key ← expressions fuel "]"
        return .element n key
      else return .name n
    | .callee n =>
      let line := (← placed).line
      advance
      advance
      let given ← expressions fuel ")"
      modify fun s => { s with calls := s.calls ++ [⟨n, given.length, line⟩] }
      return .call n given
    | .routine r =>
      advance
      let given ← if ← accept "(" then expressions fuel ")" else
        if r = .length then pure [] else unfit
      let (least, most) := r.arity
      if given.length < least || most < given.length then
        mistake s!"wrong number of arguments in call to {r.name}"
      else return .routine r (← patternsOf r given)
    | .keyword "getline" =>
      advance
      let target ← recordTarget fuel
      if ← accept "<" then
        return .readRecord target (some (.file, ← operand fuel none))
      else return .readRecord target none
    | .mark "(" =>
      advance
      let es ← expressions fuel ")"
      if es.isEmpty then unfit else return .group es
    | .mark "$" =>
      advance
      if ← accept "-" then return .field (.sign true (← primary fuel))
      else return .field (← primary fuel)
    | .mark "++" =>
      advance
      steppedTarget true (← primary fuel)
    | .mark "--" =>
      advance
      steppedTarget false (← primary fuel)
    | _ => unfit
where
  /-- A step before its target. -/
  steppedTarget (up : Bool) (e : Expr) : Parsing Expr := do
    if isTarget e then return .step true up e else unfit

/-- What a record is read into, if it is named. -/
private def recordTarget : (fuel : Nat) → Parsing (Option Expr)
  | 0 => unfit
  | fuel + 1 => do
    match ← peek with
    | .name _ | .mark "$" => return some (← primary fuel)
    | _ => return none

/-- Expressions with commas between them, up to a closing mark. -/
private def expressions : (fuel : Nat) → (closing : String) → Parsing (List Expr)
  | 0, _ => unfit
  | fuel + 1, closing => do
    skipLines
    if ← accept closing then return []
    let e ← expression fuel true
    skipLines
    if ← accept "," then return e :: (← expressions fuel closing)
    need closing
    return [e]

end

/-! ### Statements -/

/-- Expressions with commas between them. -/
private def listed (wide : Bool) : (fuel : Nat) → Parsing (List Expr)
  | 0 => unfit
  | fuel + 1 => do
    let e ← expression (fuel + 1) wide
    if ← accept "," then
      skipLines
      return e :: (← listed wide fuel)
    else return [e]

/-- The end of a statement comes next. -/
private def isAtEnd : Parsing Bool := do
  match ← peek with
  | .mark m => return m = ";" || m = "\n" || m = "\x7d"
  | .ending => return true
  | _ => return false

/-- The end of a statement; a closing brace is left. -/
private def endOfStatement : Parsing Unit := do
  match ← peek with
  | .mark ";" =>
    advance
    skipLines
  | .mark "\n" => skipLines
  | .mark "\x7d" => return
  | _ => unfit

/-- An expression unless the statement ends. -/
private def optionalExpression (fuel : Nat) : Parsing (Option Expr) := do
  if ← isAtEnd then return none else return some (← expression fuel true)

/-- What is printed, and where to. -/
private def printed (fuel : Nat) : Parsing (List Expr × Option (Route × Expr)) := do
  let isBare ← match ← peek with
    | .mark m => pure ([">", ">>", "|"].contains m)
    | _ => pure false
  let es ← if isBare || (← isAtEnd) then pure [] else listed false fuel
  let es := match es with
    | [.group inner] => if 1 < inner.length then inner else es
    | es => es
  if ← accept ">" then return (es, some (.file, ← expression fuel true))
  else if ← accept ">>" then return (es, some (.fileEnd, ← expression fuel true))
  else if ← accept "|" then return (es, some (.command, ← expression fuel true))
  else return (es, none)

/-- A statement without others in it. -/
private def simpleStatement (fuel : Nat) : Parsing Statement := do
  match ← peek with
  | .keyword "print" =>
    advance
    let (es, target) ← printed fuel
    return .print es target
  | .keyword "printf" =>
    advance
    let (es, target) ← printed fuel
    if es.isEmpty then unfit else return .printf es target
  | .keyword "break" =>
    advance
    return .leave
  | .keyword "continue" =>
    advance
    return .again
  | .keyword "next" =>
    if (← get).inEdge then mistake "improper use of next"
    advance
    return .next
  | .keyword "nextfile" =>
    advance
    return .nextFile
  | .keyword "exit" =>
    advance
    return .exit (← optionalExpression fuel)
  | .keyword "return" =>
    unless (← get).inProcedure do mistake "return outside function body"
    advance
    return .giveBack (← optionalExpression fuel)
  | .keyword "delete" =>
    advance
    let array ← arrayName
    if ← accept "[" then return .delete array (some (← expressions fuel "]"))
    else return .delete array none
  | _ => return .compute (← expression fuel true)

/-- The head of a loop through the keys of an array, if that comes next. -/
private def keyLoop? : Parsing (Option (String × String)) := do
  match (← get).tokens with
  | ⟨.mark "(", _⟩ :: ⟨.name n, _⟩ :: ⟨.keyword "in", _⟩ :: ⟨.name a, _⟩ :: ⟨.mark ")", _⟩ :: rest =>
    modify ({ · with tokens := rest })
    return some (n, a)
  | _ => return none

/-- A condition between parentheses. -/
private def condition (fuel : Nat) : Parsing Expr := do
  need "("
  let e ← expression fuel true
  need ")"
  return e

mutual

private def statement : (fuel : Nat) → Parsing Statement
  | 0 => unfit
  | fuel + 1 => do
    match ← peek with
    | .mark "\x7b" =>
      let s ← block fuel
      skipEnds
      return s
    | .mark ";" =>
      advance
      skipLines
      return .block []
    | .keyword "if" =>
      advance
      let c ← condition fuel
      skipLines
      let first ← statement fuel
      let s ← get
      skipEnds
      if (← peek) = .keyword "else" then
        advance
        skipLines
        return .branch c first (← statement fuel)
      else
        set s
        return .branch c first (.block [])
    | .keyword "while" =>
      advance
      let c ← condition fuel
      if ← accept ";" then
        skipLines
        return .loop c (.block [])
      skipLines
      return .loop c (← statement fuel)
    | .keyword "do" =>
      advance
      skipLines
      let body ← statement fuel
      skipEnds
      if (← peek) = .keyword "while" then
        advance
        let c ← condition fuel
        endOfStatement
        return .loopOnce body c
      else unfit
    | .keyword "for" =>
      advance
      match ← keyLoop? with
      | some (n, a) =>
        skipLines
        return .forKeys n a (← statement fuel)
      | none =>
        need "("
        let start ← if ← accept ";" then pure (.block []) else do
          let s ← simpleStatement fuel
          need ";"
          pure s
        skipLines
        let c ← if ← accept ";" then pure none else do
          let e ← expression fuel true
          need ";"
          pure (some e)
        skipLines
        let step ← if ← accept ")" then pure (.block []) else do
          let s ← simpleStatement fuel
          need ")"
          pure s
        if ← accept ";" then
          skipLines
          return .count start c step (.block [])
        skipLines
        return .count start c step (← statement fuel)
    | _ =>
      let s ← simpleStatement fuel
      endOfStatement
      return s

/-- Statements between braces. -/
private def block : (fuel : Nat) → Parsing Statement
  | 0 => unfit
  | fuel + 1 => do
    need "\x7b"
    skipEnds
    let parts ← statements fuel
    return .block parts

/-- Statements up to the closing brace. -/
private def statements : (fuel : Nat) → Parsing (List Statement)
  | 0 => unfit
  | fuel + 1 => do
    if ← accept "\x7d" then return []
    let s ← statement fuel
    return s :: (← statements fuel)

end

/-! ### Rules -/

/-- A block of statements, with what may stand in it. -/
private def action (fuel : Nat) (inEdge inProcedure : Bool) : Parsing Statement := do
  modify ({ · with inEdge, inProcedure })
  let s ← block fuel
  modify ({ · with inEdge := false, inProcedure := false })
  return s

private def parameters : (fuel : Nat) → Parsing (List String)
  | 0 => unfit
  | fuel + 1 => do
    if ← accept ")" then return []
    let n ← arrayName
    skipLines
    if ← accept "," then
      skipLines
      let more ← parameters fuel
      if more.contains n then mistake s!"{n} is duplicated in argument list" else return n :: more
    else
      need ")"
      return [n]

/-- A procedure, from behind the keyword. -/
private def procedure (fuel : Nat) : Parsing Procedure := do
  let name ← match ← peek with
    | .callee n | .name n => pure n
    | _ => unfit
  advance
  need "("
  let parameters ← parameters fuel
  skipLines
  return ⟨name, parameters, ← action fuel false true⟩

private def rule (fuel : Nat) : Parsing Rule := do
  match ← peek with
  | .keyword "BEGIN" =>
    advance
    return ⟨.start, some (← action fuel true false)⟩
  | .keyword "END" =>
    advance
    return ⟨.finish, some (← action fuel true false)⟩
  | .mark "\x7b" => return ⟨.always, some (← action fuel false false)⟩
  | _ =>
    let first ← expression fuel true
    let pattern ← if ← accept "," then
        skipLines
        pure (Pattern.range first (← expression fuel true))
      else pure (Pattern.condition first)
    match ← peek with
    | .mark "\x7b" => return ⟨pattern, some (← action fuel false false)⟩
    | .mark "\n" | .mark ";" | .ending => return ⟨pattern, none⟩
    | _ => unfit

private def ruleSet (fuel : Nat) : (room : Nat) → Parsing RuleSet
  | 0 => unfit
  | room + 1 => do
    skipEnds
    match ← peek with
    | .ending => return {}
    | .keyword "function" =>
      advance
      let p ← procedure fuel
      let more ← ruleSet fuel room
      return { more with procedures := p :: more.procedures }
    | _ =>
      let r ← rule fuel
      let more ← ruleSet fuel room
      return { more with rules := r :: more.rules }

/-- The script that a text denotes. -/
def RuleSet.ofText (cs : List Char) : Except Mistake RuleSet := do
  let tokens ← tokensOf cs
  let (found, s) ← (ruleSet (20 * tokens.length + 20) (tokens.length + 1)).run { tokens }
  checkCalls found.procedures s.calls
  return found
where
  /-- Every procedure that is called has to be there and take as many arguments. -/
  checkCalls (procedures : List Procedure) : List ProcedureCall → Except Mistake Unit
    | [] => return
    | c :: rest => do
      let last := (cs.filter (· = '\n')).length + 2
      match procedures.find? (·.name == c.name) with
      | none => throw ⟨s!"line {last}: function {c.name} never defined"⟩
      | some p =>
        if p.parameters.length < c.arguments then
          throw ⟨s!"line {c.line}: too many arguments in call to {c.name}"⟩
        else checkCalls procedures rest

end StepFlow.Shell.Rules

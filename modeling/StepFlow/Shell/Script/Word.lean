import StepFlow.Shell.Script.Source

/-!
# Words

Words are read piece by piece: plain text, quoted text, and what a dollar sign or a backquote stands
for.

## Main definitions

* `dollar` — an expansion
* `word?` — the next word
-/

namespace StepFlow.Shell

open Reading

/-- The parameters with a one-character name. -/
def isSpecialName (c : Char) : Bool := c.isDigit || "?$#@*!-".toList.contains c

/-- The use of a variable between braces, from behind its name on; `unclosed` is the mistake of a text
that ends here. -/
def variableUse (unclosed : String) : Reading VariableUse := do
  let orEmpty ← match ← ahead with
    | ':' :: _ =>
      skip 1
      pure true
    | _ => pure false
  match ← ahead with
  | '-' :: _ =>
    skip 1
    return .default orEmpty
  | '=' :: _ =>
    skip 1
    return .assign orEmpty
  | '+' :: _ =>
    skip 1
    return .alternative orEmpty
  | '?' :: _ =>
    skip 1
    return .required orEmpty
  | '#' :: '#' :: _ =>
    skip 2
    return .withoutStart true
  | '#' :: _ =>
    skip 1
    return .withoutStart false
  | '%' :: '%' :: _ =>
    skip 2
    return .withoutEnd true
  | '%' :: _ =>
    skip 1
    return .withoutEnd false
  | '\x7d' :: _ => return .plain
  | [] => fail unclosed
  | _ => fail "Bad substitution"

/-- The name of a variable or parameter. -/
def variableName : Reading String := do
  let cs ← ahead
  let name := match cs with
    | c :: rest =>
      if isNameStart c then c :: rest.takeWhile isNameChar
      else if c.isDigit then c :: rest.takeWhile Char.isDigit
      else if isSpecialName c then [c] else []
    | [] => []
  if name.isEmpty then fail (if cs.isEmpty then "Syntax error: Missing '\x7d'" else "Bad substitution")
  skip name.length
  return String.ofList name

mutual

/-- What a dollar sign stands for; the reader stands behind it. -/
def dollar (quoted : Bool) : (fuel : Nat) → Reading Piece
  | 0 => exhausted
  | fuel + 1 => do
    match ← ahead with
    | '(' :: '(' :: _ =>
      skip 2
      let missing := "Syntax error: Missing '))'"
      let inside ← enclosed missing (← ahead).length 0
      unless ← skipIf [')'] do fail missing
      let (expr, _) ← (pieces false (fun _ => false) fuel).run { rest := inside, line := (← get).line }
      return .arithmetic expr quoted
    | '(' :: _ =>
      skip 1
      let unclosed := "Syntax error: end of file unexpected (expecting \")\")"
      return .output (← commandText unclosed) quoted
    | '\x7b' :: '#' :: c :: _ =>
      if c = '\x7d' then
        skip 3
        return .variable "#" .plain [] quoted
      else
        skip 2
        let name ← variableName
        unless ← skipIf ['\x7d'] do fail "Bad substitution"
        return .variable name .length [] quoted
    | '\x7b' :: _ =>
      skip 1
      let name ← variableName
      let unclosed :=
        if quoted then "Syntax error: Unterminated quoted string" else "Syntax error: Missing '\x7d'"
      let use ← variableUse unclosed
      -- Quotes around an expansion do not reach the patterns in it.
      let keepsQuotes := match use with
        | .withoutStart _ | .withoutEnd _ => false
        | _ => quoted
      let word ← pieces keepsQuotes (· = '\x7d') fuel
      unless ← skipIf ['\x7d'] do fail unclosed
      return .variable name use word quoted
    | c :: rest =>
      if isNameStart c then
        let name := c :: rest.takeWhile isNameChar
        skip name.length
        return .variable (String.ofList name) .plain [] quoted
      else if isSpecialName c then
        skip 1
        return .variable (String.ofList [c]) .plain [] quoted
      else return .text ['$'] quoted
    | [] => return .text ['$'] quoted

/-- The pieces between double quotes, up to the closing one. Inline input is read in the same way, but
up to its end, and quotes stand for themselves in it. -/
def doubleQuoted (inline : Bool) : (fuel : Nat) → Reading (List Piece)
  | 0 => exhausted
  | fuel + 1 => do
    match ← ahead with
    | [] => if inline then return [] else fail "Syntax error: Unterminated quoted string"
    | '\\' :: '\n' :: _ =>
      skip 2
      doubleQuoted inline fuel
    | '\\' :: c :: _ =>
      skip 2
      let kept :=
        if (c = '"' && !inline) || c = '\\' || c = '$' || c = backquote then [c] else ['\\', c]
      return .text kept true :: (← doubleQuoted inline fuel)
    | '$' :: _ =>
      skip 1
      let p ← dollar true fuel
      return p :: (← doubleQuoted inline fuel)
    | c :: _ =>
      skip 1
      if c = '"' && !inline then return []
      else if c = backquote then
        let p := Piece.output (← backquoted true (← ahead).length.succ) true
        return p :: (← doubleQuoted inline fuel)
      else return .text [c] true :: (← doubleQuoted inline fuel)

/-- The pieces of a word up to a character that ends it, or to the end of the script. -/
def pieces (quoted : Bool) (ends : Char → Bool) : (fuel : Nat) → Reading (List Piece)
  | 0 => exhausted
  | fuel + 1 => do
    match ← ahead with
    | [] => return []
    | c :: rest =>
      if ends c then return []
      else if c = '\\' then
        match rest with
        | '\n' :: _ =>
          skip 2
          pieces quoted ends fuel
        | d :: _ =>
          skip 2
          return .text [d] true :: (← pieces quoted ends fuel)
        | [] =>
          skip 1
          return [.text ['\\'] true]
      else if c = '\'' && !quoted then
        let inside := rest.takeWhile (· ≠ '\'')
        if inside.length = rest.length then fail "Syntax error: Unterminated quoted string"
        skip (inside.length + 2)
        return .text inside true :: (← pieces quoted ends fuel)
      else if c = '"' then
        skip 1
        let inside ← doubleQuoted false fuel
        return .text [] true :: inside ++ (← pieces quoted ends fuel)
      else if c = '$' then
        skip 1
        let p ← dollar quoted fuel
        return p :: (← pieces quoted ends fuel)
      else if c = backquote then
        skip 1
        let p := Piece.output (← backquoted quoted rest.length.succ) quoted
        return p :: (← pieces quoted ends fuel)
      else
        skip 1
        return .text [c] quoted :: (← pieces quoted ends fuel)

end

/-- The next word, if there is one. -/
def word? : Reading (Option Word) := do
  let cs ← ahead
  match cs with
  | [] => return none
  | c :: _ =>
    if endsWord c then return none
    else return some (← pieces false endsWord (4 * cs.length + 4))

end StepFlow.Shell

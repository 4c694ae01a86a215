import StepFlow.Shell.Programs.Rules.Basic
import StepFlow.Shell.Programs.Format

/-!
# Tokens of rules

The text of a script as tokens. A slash begins an expression where no operand comes before it and
divides otherwise. A line end is a token; behind a backslash it does not count.

## Main definitions

* `Token`, `Placed`
* `escapesResolved` — a text with what its escapes stand for
* `tokensOf` — the tokens of a text
-/

namespace StepFlow.Shell.Rules

/-- Why a text is no script. -/
structure Mistake where
  message : String
  deriving DecidableEq, Repr, Inhabited

inductive Token where
  | number (x : Double)
  | text (s : List Char)
  | regex (s : List Char)
  | name (n : String)
  /-- A name with a parenthesis right behind it. -/
  | callee (n : String)
  | routine (r : Routine)
  | keyword (w : String)
  /-- An operator, a mark, or the end of a line. -/
  | mark (s : String)
  /-- The end of the text. -/
  | ending
  deriving DecidableEq, Repr, Inhabited

/-- A token and the line it stands in. -/
structure Placed where
  token : Token
  line : Nat
  deriving DecidableEq, Repr, Inhabited

namespace Token

/-- A token as complaints show it. -/
def shown : Token → String
  | number x => x.text
  | text s => "\"" ++ String.ofList s ++ "\""
  | regex s => "/" ++ String.ofList s ++ "/"
  | name n | callee n => n
  | routine r => r.name
  | keyword w => w
  | mark s => if s = "\n" then "end of line" else s
  | ending => "end of line"

end Token

def keywords : List String :=
  ["BEGIN", "END", "function", "if", "else", "while", "for", "do", "break", "continue", "next", "nextfile",
   "exit", "return", "delete", "in", "getline", "print", "printf"]

/-- The marks, those that begin with others before these. -/
def marks : List String :=
  ["&&", "||", "++", "--", "+=", "-=", "*=", "/=", "%=", "^=", "==", "<=", ">=", "!=", "!~", ">>", "\x7b",
   "\x7d", "(", ")", "[", "]", ";", ",", "+", "-", "*", "/", "%", "^", "!", "<", ">", "|", "?", ":", "~",
   "$", "=", "\n"]

/-! ### Escapes -/

/-- The character of an escape, and what follows it. -/
def escapeOf? : List Char → Option (Char × List Char)
  | [] => none
  | c :: rest =>
    match [('n', '\n'), ('t', '\t'), ('r', '\r'), ('f', '\x0c'), ('v', '\x0b'), ('a', '\x07'), ('b', '\x08'),
        ('\\', '\\'), ('"', '"')].lookup c with
    | some d => some (d, rest)
    | none =>
      let octal := (c :: rest).take 3 |>.takeWhile fun d => '0' ≤ d && d ≤ '7'
      let hexadecimal := (rest.take 2).takeWhile fun d => (asciiDigit? d).isSome
      if !octal.isEmpty then
        some (Char.ofNat (digitsValue 8 (octal.filterMap asciiDigit?) % 256), (c :: rest).drop octal.length)
      else if c = 'x' && !hexadecimal.isEmpty then
        some (Char.ofNat (digitsValue 16 (hexadecimal.filterMap asciiDigit?)), rest.drop hexadecimal.length)
      else none

/-- A text with what its escapes stand for. A backslash before any other character stays. -/
def escapesResolved : (fuel : Nat) → List Char → List Char
  | 0, cs => cs
  | _, [] => []
  | fuel + 1, '\\' :: '\n' :: rest => escapesResolved fuel rest
  | fuel + 1, '\\' :: rest =>
    match escapeOf? rest with
    | some (c, rest) => c :: escapesResolved fuel rest
    | none => '\\' :: escapesResolved fuel rest
  | fuel + 1, c :: rest => c :: escapesResolved fuel rest

/-! ### Parts of tokens -/

private def isNameStart (c : Char) : Bool := c.isAlpha || c = '_'

private def isNameChar (c : Char) : Bool := c.isAlphanum || c = '_'

/-- A decimal numeral at the beginning of a text. -/
private def numeralLength (cs : List Char) : Nat :=
  let whole := (cs.takeWhile Char.isDigit).length
  let (point, fraction) := match cs.drop whole with
    | '.' :: rest => (1, (rest.takeWhile Char.isDigit).length)
    | _ => (0, 0)
  if whole + fraction = 0 then 0
  else
    let length := whole + point + fraction
    match cs.drop length with
    | e :: rest =>
      let sign := if rest.head? = some '+' || rest.head? = some '-' then 1 else 0
      let digits := ((rest.drop sign).takeWhile Char.isDigit).length
      if (e = 'e' || e = 'E') && digits ≠ 0 then length + 1 + sign + digits else length
    | [] => length

/-- The characters up to a closing mark in the same line, and what follows; a backslash keeps the mark.
A class of an expression may hold the mark. -/
private def quotedPart (mark : Char) : (inClass : Bool) → List Char → Option (List Char × List Char)
  | _, [] => none
  | inClass, '\\' :: c :: rest => do
    let (inside, rest) ← quotedPart mark inClass rest
    return (if c = mark && mark = '/' then c :: inside else '\\' :: c :: inside, rest)
  | inClass, c :: rest =>
    if c = mark && !inClass then some ([], rest)
    else if c = '\n' then none
    else do
      let inClass := if mark ≠ '/' then false else if c = '[' then true else if c = ']' then false else inClass
      let (inside, rest) ← quotedPart mark inClass rest
      return (c :: inside, rest)

/-- An operand ends with the token, so that a slash behind it divides. -/
private def endsOperand : Token → Bool
  | .number _ | .text _ | .regex _ | .name _ | .routine _ => true
  | .mark s => s = ")" || s = "]" || s = "$" || s = "++" || s = "--"
  | _ => false

/-- What a word is. -/
private def wordToken (word : String) (behind : List Char) : Token :=
  if keywords.contains word then .keyword word
  else match Routine.ofName? word with
    | some r => .routine r
    | none => if behind.head? = some '(' then .callee word else .name word

/-! ### Texts -/

/-- The tokens from a place on. The last token tells what a slash means. -/
private def tokensFrom : (fuel line : Nat) → (last : Token) → List Char → Except Mistake (List Placed)
  | 0, line, _, _ | _, line, _, [] => return [⟨.ending, line⟩]
  | fuel + 1, line, last, '\\' :: '\n' :: rest => tokensFrom fuel (line + 1) last rest
  | fuel + 1, line, last, '#' :: rest => tokensFrom fuel line last (rest.dropWhile (· ≠ '\n'))
  | fuel + 1, line, _, '"' :: rest => do
    match quotedPart '"' false rest with
    | none =>
      let shown := String.ofList (rest.takeWhile (· ≠ '\n') |>.take 10)
      throw ⟨s!"line {line}: runaway string constant \"{shown} ..."⟩
    | some (inside, behind) =>
      let token := Token.text (escapesResolved inside.length inside)
      return ⟨token, line⟩ :: (← tokensFrom fuel line token behind)
  | fuel + 1, line, last, c :: rest => do
    if c = ' ' || c = '\t' || c = '\r' then return ← tokensFrom fuel line last rest
    if c = '/' && !endsOperand last then
      match quotedPart '/' false rest with
      | none =>
        let shown := String.ofList (rest.takeWhile (· ≠ '\n') |>.take 10)
        throw ⟨s!"line {line}: runaway regular expression /{shown} ..."⟩
      | some (inside, behind) =>
        return ⟨.regex inside, line⟩ :: (← tokensFrom fuel line (.regex inside) behind)
    if isNameStart c then
      let word := (c :: rest).takeWhile isNameChar
      let behind := (c :: rest).drop word.length
      let token := wordToken (String.ofList word) behind
      return ⟨token, line⟩ :: (← tokensFrom fuel line token behind)
    let length := numeralLength (c :: rest)
    if length ≠ 0 then
      let token := Token.number (leadingDouble ((c :: rest).take length)).1
      return ⟨token, line⟩ :: (← tokensFrom fuel line token ((c :: rest).drop length))
    match marks.find? fun m => m.toList.isPrefixOf (c :: rest) with
    | some m =>
      let next := if m = "\n" then line + 1 else line
      return ⟨.mark m, line⟩ :: (← tokensFrom fuel next (.mark m) ((c :: rest).drop m.length))
    | none => throw ⟨s!"{line}: unexpected character " ++ String.ofList ['\'', c, '\'']⟩

/-- The tokens of a text, the last of which is its end. -/
def tokensOf (cs : List Char) : Except Mistake (List Placed) :=
  tokensFrom (cs.length + 1) 1 (.mark "\n") cs

end StepFlow.Shell.Rules

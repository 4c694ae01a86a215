import StepFlow.Shell.Programs.Options
import StepFlow.Shell.Regex.Read

/-!
# Values of expressions

An expression is given by its words: alternatives, conjunctions, comparisons, sums, products and
matches, from the loosest to the tightest, and functions of texts. The value of a part that does not
count is not taken, so it cannot fail.

## Main definitions

* `expr`
-/

namespace StepFlow.Shell

private inductive ExprFault where
  | division
  | nonInteger
  | expression (message : String)
  | malformed (message : String)

private def ExprFault.message : ExprFault → String
  | .division => "division by zero"
  | .nonInteger => "non-integer argument"
  | .expression m => m
  | .malformed m => "syntax error: " ++ m

/-- What has been read of an expression: the words that are left, and the last one read. -/
private structure ExprWords where
  rest : List String
  last : String := ""

private abbrev ExprReading := StateT ExprWords (Except ExprFault)

/-- An integer in decimal notation; a plus sign does not belong to one. -/
private def exprInteger? (s : String) : Option Int :=
  if s.toList.head? = some '+' then none else intOf? s

/-- The value counts as false: it is empty or zero. -/
private def isNull (s : String) : Bool :=
  match s.toList with
  | [] => true
  | ['-'] => false
  | '-' :: cs => cs.all (· = '0')
  | cs => cs.all (· = '0')

private def boolText (b : Bool) : String := if b then "1" else "0"

/-- Take the next word if it is one of several. -/
private def nextOf? (words : List String) : ExprReading (Option String) := do
  let s ← get
  match s.rest with
  | w :: rest =>
    if words.contains w then
      set (⟨rest, w⟩ : ExprWords)
      return some w
    else return none
  | [] => return none

/-- The next word, which has to be there. -/
private def nextWord : ExprReading String := do
  let s ← get
  match s.rest with
  | w :: rest =>
    set (⟨rest, w⟩ : ExprWords)
    return w
  | [] =>
    let shown := quotedPhrase s.last
    throw (.malformed s!"missing argument after {shown}")

/-- The value of a match: what the first group has matched, or the length of the match. -/
private def matchValue (text pattern : String) : Except ExprFault String := do
  match Regex.read {} (argumentChars pattern) with
  | .error fault => throw (.expression fault.message)
  | .ok (r, _) =>
    let shown (cs : List Char) : String := textOf (bytesOfChars cs)
    match Regex.matchAt? [r] (fun _ => true) ⟨[], argumentChars text, []⟩ with
    | some m =>
      return if 0 < r.groupCount then shown ((m.stop.group? 1).getD []) else toString m.text.length
    | none => return if 0 < r.groupCount then "" else "0"

private def substringOf (text : String) (start count : Option Int) : String :=
  match start, count with
  | some p, some n =>
    if p ≤ 0 || n ≤ 0 then "" else textOf (((bytesOf text).drop (p.toNat - 1)).take n.toNat)
  | _, _ => ""

private def indexOf (text chars : String) : Nat :=
  match (bytesOf text).findIdx? (bytesOf chars).contains with
  | some i => i + 1
  | none => 0

private def compared (op a b : String) : Bool :=
  let order : Ordering := match exprInteger? a, exprInteger? b with
    | some m, some n => Ord.compare m n
    | _, _ =>
      if a = b then .eq else if bytesLe (bytesOf a) (bytesOf b) then .lt else .gt
  match op with
  | "<" => order = .lt
  | "<=" => order ≠ .gt
  | "=" | "==" => order = .eq
  | "!=" => order ≠ .eq
  | ">=" => order ≠ .lt
  | _ => order = .gt

private def computed (op a b : String) : Except ExprFault String := do
  match exprInteger? a, exprInteger? b with
  | some m, some n =>
    match op with
    | "+" => return toString (m + n)
    | "-" => return toString (m - n)
    | "*" => return toString (m * n)
    | _ =>
      if n = 0 then throw .division
      else return toString (if op = "/" then m.tdiv n else m.tmod n)
  | _, _ => throw .nonInteger

mutual

/-- An expression whose operators bind at least as tightly as a level says; its value is taken only if
it counts. -/
private def exprAt (fuel : Nat) (level : Nat) (counts : Bool) : ExprReading String := do
  match fuel with
  | 0 => throw (.malformed "too long")
  | fuel + 1 =>
    match level with
    | 0 | 1 | 2 | 3 | 4 | 5 =>
      let first ← exprAt fuel (level + 1) counts
      exprRest fuel level counts first
    | _ => exprOperand fuel counts

/-- What follows an operand at a level. -/
private def exprRest (fuel : Nat) (level : Nat) (counts : Bool) (a : String) : ExprReading String := do
  match fuel with
  | 0 => throw (.malformed "too long")
  | fuel + 1 =>
    let operators := match level with
      | 0 => ["|"]
      | 1 => ["&"]
      | 2 => ["<", "<=", "=", "==", "!=", ">=", ">"]
      | 3 => ["+", "-"]
      | 4 => ["*", "/", "%"]
      | _ => [":"]
    match ← nextOf? operators with
    | none => return a
    | some op =>
      let needed := match level with
        | 0 => counts && isNull a
        | 1 => counts && !isNull a
        | _ => counts
      let b ← exprAt fuel (level + 1) needed
      let value ← match level with
        | 0 => pure (if !isNull a then a else if isNull b then "0" else b)
        | 1 => pure (if isNull a || isNull b then "0" else a)
        | 2 => pure (boolText (compared op a b))
        | 5 => if counts then matchValue a b else pure "0"
        | _ => if counts then computed op a b else pure "0"
      exprRest fuel level counts value

private def exprOperand (fuel : Nat) (counts : Bool) : ExprReading String := do
  match fuel with
  | 0 => throw (.malformed "too long")
  | fuel + 1 =>
    match ← nextOf? ["+", "length", "match", "index", "substr", "(", ")"] with
    | none => nextWord
    | some "+" => nextWord
    | some "length" => do
      let a ← exprAt fuel 6 counts
      return toString (bytesOf a).length
    | some "match" => do
      let a ← exprAt fuel 6 counts
      let b ← exprAt fuel 6 counts
      if counts then matchValue a b else return "0"
    | some "index" => do
      let a ← exprAt fuel 6 counts
      let b ← exprAt fuel 6 counts
      return toString (indexOf a b)
    | some "substr" => do
      let a ← exprAt fuel 6 counts
      let start ← exprAt fuel 6 counts
      let count ← exprAt fuel 6 counts
      return substringOf a (exprInteger? start) (exprInteger? count)
    | some ")" => throw (.malformed "unexpected ')'")
    | some _ => do
      let a ← exprAt fuel 0 counts
      let s ← get
      match s.rest with
      | ")" :: rest =>
        set (⟨rest, ")"⟩ : ExprWords)
        return a
      | w :: _ =>
        let shown := quotedPhrase w
        throw (.malformed ("expecting ')' instead of " ++ shown))
      | [] =>
        let shown := quotedPhrase s.last
        throw (.malformed ("expecting ')' after " ++ shown))

end

/-- Write the value of an expression; the status tells whether it counts as true. -/
def expr : Program := fun st args => do
  let words := if args.head? = some "--" then args.drop 1 else args
  if words.isEmpty then
    emitText st.err ("expr: missing operand\n" ++ helpHint "expr")
    return 2
  let outcome : Except ExprFault String := do
    let (value, left) ← (exprAt (20 * words.length + 20) 0 true).run ⟨words, ""⟩
    match left.rest with
    | [] => return value
    | w :: _ =>
      let shown := quotedPhrase w
      throw (.malformed s!"unexpected argument {shown}")
  match outcome with
  | .ok value =>
    emitText st.out (value ++ "\n")
    return if isNull value then 1 else 0
  | .error fault =>
    emitText st.err s!"expr: {fault.message}\n"
    return 2

end StepFlow.Shell

import StepFlow.Shell.Programs.Options

/-!
# Translating bytes

Sets of bytes are written as characters, ranges, named classes and repetitions. A byte of the first set
is replaced by the one at the same position in the second set, or removed, or bytes in a row become
one.

## Main definitions

* `ByteSetItem`, `readSet` — sets as they are written
* `tr`
-/

namespace StepFlow.Shell

/-- A part of a written set. -/
private inductive ByteSetItem where
  | byte (b : UInt8)
  | range (low high : UInt8)
  | named (name : String)
  /-- A byte so many times; zero stands for as many as are needed. -/
  | repeated (b : UInt8) (times : Nat)
  deriving DecidableEq

/-- A byte of a set, and whether a backslash kept it from having a meaning. -/
private abbrev Written := UInt8 × Bool

/-- The bytes that a text stands for, with escapes resolved; and whether it ends in a backslash. -/
private def unescape : (fuel : Nat) → List Char → List Written × Bool
  | 0, _ | _, [] => ([], false)
  | _, ['\\'] => ([(92, false)], true)
  | fuel + 1, '\\' :: c :: rest =>
    let isOctal (c : Char) : Bool := '0' ≤ c && c ≤ '7'
    let ds := ((c :: rest).take 3).takeWhile isOctal
    if !ds.isEmpty then
      let value (ds : List Char) : Nat := digitsValue 8 (ds.filterMap asciiDigit?)
      -- A number above 255 has two digits only.
      let ds := if 255 < value ds then ds.take 2 else ds
      let (more, open') := unescape fuel ((c :: rest).drop ds.length)
      ((UInt8.ofNat (value ds), true) :: more, open')
    else
      let b : UInt8 := match c with
        | 'a' => 7
        | 'b' => 8
        | 'f' => 12
        | 'n' => 10
        | 'r' => 13
        | 't' => 9
        | 'v' => 11
        | c => UInt8.ofNat c.toNat
      let (more, open') := unescape fuel rest
      ((b, true) :: more, open')
  | fuel + 1, c :: rest =>
    let (more, open') := unescape fuel rest
    ((UInt8.ofNat c.toNat, false) :: more, open')

private def sign (c : Char) : Written := (UInt8.ofNat c.toNat, false)

private def plain (ws : List Written) : String := String.ofList (charsOf (ws.map (·.1)))

/-- The name between two marks, and what follows the closing bracket. -/
private def between? (mark : Char) : (fuel : Nat) → List Written → Option (List Written × List Written)
  | 0, _ | _, [] => none
  | fuel + 1, w :: rest =>
    match rest with
    | close :: behind =>
      if w = sign mark && close = sign ']' then some ([], behind)
      else (between? mark fuel rest).map fun (name, behind) => (w :: name, behind)
    | [] => none

private def classNames : List String :=
  ["alnum", "alpha", "blank", "cntrl", "digit", "graph", "lower", "print", "punct", "space", "upper",
   "xdigit"]

/-- The number of repetitions behind a star, up to the closing bracket. -/
private def repetition? (ws : List Written) : Option (Except String (Nat × List Written)) :=
  let (number, rest) := ws.span (· ≠ sign ']')
  match rest with
  | [] => none
  | _ :: rest =>
    let cs := (plain number).toList
    if !number.all (!·.2) then none
    else if cs.all Char.isDigit then
      let base := if cs.head? = some '0' then 8 else 10
      some (.ok (digitsValue base (cs.filterMap asciiDigit?), rest))
    else
      let shown := quotedPhrase (String.ofList cs)
      some (.error s!"invalid repeat count {shown} in [c*n] construct")

/-- The parts of a written set. -/
private def items : (fuel : Nat) → List Written → Except String (List ByteSetItem)
  | 0, _ | _, [] => return []
  | fuel + 1, w :: rest => do
    let single : Except String (List ByteSetItem) := do
      match rest with
      | dash :: high :: behind =>
        if dash = sign '-' then
          if high.1 < w.1 then
            let shown := quotedPhrase (plain [w, dash, high])
            throw s!"range-endpoints of {shown} are in reverse collating sequence order"
          return .range w.1 high.1 :: (← items fuel behind)
        else return .byte w.1 :: (← items fuel rest)
      | _ => return .byte w.1 :: (← items fuel rest)
    if w ≠ sign '[' then single
    else match rest with
      | mark :: inside =>
        if mark = sign ':' then
          match between? ':' (inside.length + 1) inside with
          | some (name, behind) =>
            let name := plain name
            if classNames.contains name then return .named name :: (← items fuel behind)
            else if name = "" then throw "missing character class name '[::]'"
            else if (inside.head?.any (· = sign '*')) then single
            else
              let shown := quotedPhrase name
              throw s!"invalid character class {shown}"
          | none => single
        else if mark = sign '=' then
          match between? '=' (inside.length + 1) inside with
          | some ([b], behind) => return .byte b.1 :: (← items fuel behind)
          | some ([], _) => throw "missing equivalence class character '[==]'"
          | some (name, _) =>
            throw s!"{plain name}: equivalence class operand must be a single character"
          | none => single
        else match inside with
          | star :: count =>
            if star = sign '*' then
              match repetition? count with
              | some (.ok (n, behind)) => return .repeated mark.1 n :: (← items fuel behind)
              | some (.error message) => throw message
              | none => single
            else single
          | [] => single
      | [] => single

/-- The members of a named class, in order. -/
private def members (name : String) : List UInt8 :=
  ((List.range 256).map UInt8.ofNat).filter fun b =>
    let c := Char.ofNat b.toNat
    match name with
    | "alnum" => c.isAlphanum
    | "alpha" => c.isAlpha
    | "blank" => isBlankByte b
    | "cntrl" => b < 32 || b = 127
    | "digit" => c.isDigit
    | "graph" => 33 ≤ b && b ≤ 126
    | "lower" => c.isLower
    | "print" => 32 ≤ b && b ≤ 126
    | "punct" => 33 ≤ b && b ≤ 126 && !c.isAlphanum
    | "space" => isSpaceByte b
    | "upper" => c.isUpper
    | _ => c.isDigit || ('a' ≤ c.toLower && c.toLower ≤ 'f')

private def ByteSetItem.bytes (fill : Nat) : ByteSetItem → List UInt8
  | .byte b => [b]
  | .range low high => (List.range (high.toNat + 1 - low.toNat)).map fun i => low + UInt8.ofNat i
  | .named name => members name
  | .repeated b times => List.replicate (if times = 0 then fill else times) b

/-- The bytes of a set, in order; parts without a length of their own fill it up to a size. -/
private def bytesOfItems (size : Nat) (parts : List ByteSetItem) : List UInt8 :=
  let fixed := (parts.map fun p => (p.bytes 0).length).foldl (· + ·) 0
  parts.flatMap (·.bytes (size - fixed))

/-- The positions at which classes of letters of one case begin. -/
private def caseStarts : Nat → List ByteSetItem → List Nat
  | _, [] => []
  | n, p :: rest =>
    let more := caseStarts (n + (p.bytes 0).length) rest
    if p = .named "upper" || p = .named "lower" then n :: more else more

/-- Neighbouring equal members of a set are one. -/
private def squeezed (set : List UInt8) (bs : List UInt8) : List UInt8 :=
  (bs.splitBy fun a b => a = b && set.contains a).flatMap (·.take 1)

/-- The member at the same position of another set, whose last one stands for all further ones. -/
private def translated (source target : List UInt8) (b : UInt8) : UInt8 :=
  -- Of several positions of a byte the last one counts.
  match source.reverse.idxOf? b with
  | some i =>
    let i := source.length - 1 - i
    (target[i]?).getD (target.getLastD b)
  | none => b

private def trOptions : List ProgramOption :=
  flags [["c", "C", "complement"], ["d", "delete"], ["s", "squeeze-repeats"], ["t", "truncate-set1"]]

/-- What is wrong with the number of sets. -/
private def miscounted? (g : Given) : Option String :=
  let deletes := g.has "d"
  let squeezes := g.has "s"
  let both := deletes = squeezes
  match g.operands with
  | [] => some "missing operand"
  | [a] =>
    if deletes = squeezes then
      let shown := quotedPhrase a
      some (s!"missing operand after {shown}\n" ++
        if deletes then "Two strings must be given when both deleting and squeezing repeats."
        else "Two strings must be given when translating.")
    else none
  | [_, b] =>
    if deletes && !both then
      let shown := quotedPhrase b
      some (s!"extra operand {shown}\n" ++
        "Only one string may be given when deleting without squeezing repeats.")
    else none
  | _ :: _ :: c :: _ =>
    let shown := quotedPhrase c
    some s!"extra operand {shown}"

/-- The function of bytes that two sets and options ask for. -/
private def transformation (g : Given) (sets : List (List ByteSetItem)) :
    Except String (List UInt8 → List UInt8) := do
  let firstParts := sets.headD []
  let complement := g.has "c"
  let plainFirst := bytesOfItems 0 firstParts
  let first := if complement then
      ((List.range 256).map UInt8.ofNat).filter (!plainFirst.contains ·)
    else plainFirst
  if firstParts.any fun | .repeated .. => true | _ => false then
    throw "the [c*] repeat construct may not appear in string1"
  match sets with
  | [_, secondParts] =>
    let second := bytesOfItems first.length secondParts
    if g.has "d" then
      return fun bs => squeezed second (bs.filter (!first.contains ·))
    let isCase (p : ByteSetItem) : Bool := p = .named "upper" || p = .named "lower"
    if secondParts.any fun p => match p with
        | .named _ => !isCase p
        | _ => false then
      throw "when translating, the only character classes that may appear in\nstring2 are 'upper' and 'lower'"
    let starts := caseStarts 0 firstParts
    if (caseStarts 0 secondParts).any (!starts.contains ·) || complement && secondParts.any isCase then
      throw "misaligned [:upper:] and/or [:lower:] construct"
    if second.isEmpty && !first.isEmpty && !g.has "t" then
      throw "when not truncating set1, string2 must be non-empty"
    let named := firstParts.any fun | .named _ => true | _ => false
    let filled := if second.length < first.length then second.length = 1 || second.eraseDups.length = 1
      else second.eraseDups.length ≤ 1
    if complement && named && !filled then
      throw "when translating with complemented character classes,\nstring2 must map all characters in the domain to one"
    let source := if g.has "t" then first.take second.length else first
    let move := translated source second
    return fun bs =>
      let moved := bs.map move
      if g.has "s" then squeezed second moved else moved
  | _ =>
    if g.has "d" then return fun bs => bs.filter (!first.contains ·)
    else return squeezed first

/-- Replace, remove or squeeze bytes of the input. -/
def tr : Program := fun st args => do
  match (OptionSet.mk trOptions false).read args with
  | .error complaint => misused st "tr" complaint 1
  | .ok g =>
    match miscounted? g with
    | some complaint => misused st "tr" complaint 1
    | none =>
      let read (s : String) : Except String (List ByteSetItem) :=
        let ws := (unescape (s.utf8ByteSize + 1) (argumentChars s)).1
        items (ws.length + 1) ws
      for s in g.operands do
        if (unescape (s.utf8ByteSize + 1) (argumentChars s)).2 then
          emitText st.err "tr: warning: an unescaped backslash at end of string is not portable\n"
      match g.operands.mapM read >>= transformation g with
      | .error message =>
        emitText st.err s!"tr: {message}\n"
        return 1
      | .ok change =>
        emit st.out (change (← takeInput))
        return 0

end StepFlow.Shell

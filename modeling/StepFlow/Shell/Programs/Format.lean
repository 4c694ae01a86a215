import StepFlow.Number.Numeral
import StepFlow.Number.Written
import StepFlow.Shell.Programs.Text

/-!
# Formatted output

A format is text with conversions. A conversion has flags, a width, a precision and a letter; it takes
an argument, which denotes a text, a character or a number. Numbers may be read from the beginning of
an argument; what cannot be read is complained about.

## Main definitions

* `Conversion` — a conversion in a format
* `leadingInteger`, `leadingDouble` — the number at the beginning of a text
* `printf`
-/

namespace StepFlow.Shell

/-! ### Numbers in text -/

/-- The digits of a base at the beginning of a text, and what follows. -/
private def leadingDigits (base : Nat) (cs : List Char) : List Nat × List Char :=
  let ds := cs.takeWhile fun c => (asciiDigit? c).any (· < base)
  (ds.filterMap asciiDigit?, cs.drop ds.length)

private def isSpaceChar (c : Char) : Bool := c = ' ' || ('\t' ≤ c && c ≤ '\x0d')

/-- The integer at the beginning of a text: decimal, octal or hexadecimal; and what follows. -/
def leadingInteger (s : List Char) : Int × List Char :=
  let (negative, body) := splitSign (s.dropWhile isSpaceChar)
  let signed (digits : List Nat) (base : Nat) : Int :=
    let n := digitsValue base digits
    if negative then -(n : Int) else n
  match body with
  | '0' :: x :: rest =>
    if (x = 'x' || x = 'X') && !(leadingDigits 16 rest).1.isEmpty then
      let (ds, rest) := leadingDigits 16 rest
      (signed ds 16, rest)
    else
      let (ds, rest) := leadingDigits 8 body
      (signed ds 8, rest)
  | body =>
    let (ds, rest) := leadingDigits 10 body
    if ds.isEmpty then (0, s) else (signed ds 10, rest)

/-- The exponent behind a letter, and what follows; without digits there is none. -/
private def leadingExponentOf (letter : Char) : List Char → Int × List Char
  | c :: rest =>
    let (negative, body) := splitSign rest
    let (ds, behind) := leadingDigits 10 body
    if c.toLower ≠ letter || ds.isEmpty then (0, c :: rest)
    else
      let n := digitsValue 10 ds
      (if negative then -(n : Int) else n, behind)
  | [] => (0, [])

/-- The digits before and behind a point, and what follows. -/
private def pointedDigits (base : Nat) (cs : List Char) : List Nat × List Nat × List Char :=
  let (whole, rest) := leadingDigits base cs
  match rest with
  | '.' :: behind =>
    let (fraction, behind') := leadingDigits base behind
    if whole.isEmpty && fraction.isEmpty then ([], [], cs) else (whole, fraction, behind')
  | rest => (whole, [], rest)

/-- The number at the beginning of a text, decimal or hexadecimal; and what follows. -/
def leadingDouble (s : List Char) : Double × List Char :=
  let (negative, body) := splitSign (s.dropWhile isSpaceChar)
  let low := body.map Char.toLower
  if "infinity".toList.isPrefixOf low then (.infinite negative, body.drop 8)
  else if "inf".toList.isPrefixOf low then (.infinite negative, body.drop 3)
  else if "nan".toList.isPrefixOf low then (.nan, body.drop 3)
  else
    let hexadecimal := pointedDigits 16 (body.drop 2)
    if "0x".toList.isPrefixOf low && !(hexadecimal.1.isEmpty && hexadecimal.2.1.isEmpty) then
      let (whole, fraction, rest) := hexadecimal
      let (e, rest) := leadingExponentOf 'p' rest
      let e : Int := e - 4 * fraction.length
      let n := digitsValue 16 (whole ++ fraction)
      (if 0 ≤ e then .round negative (n * twoTo e.toNat) 1 else .round negative n (twoTo (-e).toNat), rest)
    else
      let (whole, fraction, rest) := pointedDigits 10 body
      if whole.isEmpty && fraction.isEmpty then (.zero false, s)
      else
        let (e, rest) := leadingExponentOf 'e' rest
        (.ofDecimal negative (digitsValue 10 (whole ++ fraction)) (e - fraction.length), rest)

/-! ### Conversions -/

/-- A conversion in a format. -/
structure Conversion where
  left : Bool := false
  zero : Bool := false
  plus : Bool := false
  space : Bool := false
  alternate : Bool := false
  width : Nat := 0
  precision : Option Nat := none
  letter : Char

namespace Conversion

/-- Fill up to the width with blanks. -/
def pad (c : Conversion) (bs : List UInt8) : List UInt8 :=
  let fill := List.replicate (c.width - bs.length) 32
  if c.left then bs ++ fill else fill ++ bs

/-- The sign of a number as it is written. -/
private def sign (c : Conversion) (negative : Bool) : List Char :=
  if negative then ['-'] else if c.plus then ['+'] else if c.space then [' '] else []

/-- A number: what stands before its digits, and the digits, between which zeros may fill up to the
width. -/
private def number (c : Conversion) (zeros : Bool) (lead digits : List Char) : List Char :=
  let fill := c.width - lead.length - digits.length
  if c.left then lead ++ digits ++ List.replicate fill ' '
  else if zeros then lead ++ List.replicate fill '0' ++ digits
  else List.replicate fill ' ' ++ lead ++ digits

/-- Digits in at least as many places as the precision says. -/
private def precise (c : Conversion) (n : Nat) (digits : List Char) : List Char :=
  match c.precision with
  | none => digits
  | some p => if n = 0 && p = 0 then [] else List.replicate (p - digits.length) '0' ++ digits

/-- An integer with its sign. -/
def integerText (c : Conversion) (n : Int) : List Char :=
  let digits := c.precise n.natAbs (Nat.toDigits 10 n.natAbs)
  c.number (c.zero && c.precision.isNone) (c.sign (n < 0)) digits

/-- A natural number in the base of the letter. -/
def naturalText (c : Conversion) (n : Nat) : List Char :=
  let isHex := c.letter = 'x' || c.letter = 'X'
  let digits := Nat.toDigits (if c.letter = 'o' then 8 else if isHex then 16 else 10) n
  let digits := c.precise n digits
  let digits := if c.letter = 'o' && c.alternate && digits.head? ≠ some '0' then '0' :: digits else digits
  let lead : List Char := if isHex && c.alternate && n ≠ 0 then ['0', 'x'] else []
  let text := c.number (c.zero && c.precision.isNone) lead digits
  if c.letter = 'X' then text.map Char.toUpper else text

/-- A decimal in the way of the letter. -/
def decimalText (c : Conversion) (x : Double) : List Char :=
  let precision := c.precision.getD 6
  let text := match x.fraction? with
    | some (num, den) =>
      let body := match c.letter.toLower with
        | 'f' => fixedText precision c.alternate num.natAbs den
        | 'e' => scientificText precision c.alternate num.natAbs den
        | _ => generalText precision c.alternate num.natAbs den
      c.number c.zero (c.sign x.isNegative) body
    | none =>
      let body := if x = .nan then "nan" else "inf"
      c.number false (c.sign x.isNegative) body.toList
  if c.letter.isUpper then text.map Char.toUpper else text

end Conversion

/-- The letters of conversions that write decimals. -/
def isDecimalLetter (c : Char) : Bool := "eEfFgG".toList.contains c

/-! ### Arguments -/

/-- The state of writing: what has been written, the arguments that are left, and complaints. -/
private structure Writing where
  bytes : List UInt8 := []
  arguments : List String
  complaints : List String := []
  /-- A text has ended the output. -/
  stopped : Bool := false
  /-- A mistake in the format has ended it. -/
  failed : Bool := false

private abbrev Formatting := StateM Writing

private def write (bs : List UInt8) : Formatting Unit :=
  modify fun w => { w with bytes := w.bytes ++ bs }

private def complainOf (message : String) : Formatting Unit :=
  modify fun w => { w with complaints := w.complaints ++ [message] }

/-- The next argument, if there is one. -/
private def argument : Formatting (Option String) := do
  let w ← get
  set { w with arguments := w.arguments.drop 1 }
  return w.arguments.head?

/-- A number that an argument denotes; a quote stands for the code of the character behind it. -/
private def numericArgument {α : Type} (zero : α) (ofNat : Nat → α) (read : List Char → α × List Char) :
    Formatting α := do
  match ← argument with
  | none => return zero
  | some s =>
    match argumentChars s with
    | '"' :: rest | '\'' :: rest => return ofNat ((rest.head?.map Char.toNat).getD 0)
    | cs =>
      let (n, rest) := read cs
      unless rest.isEmpty do
        complainOf (s ++ if rest.length = cs.length then ": expected numeric value"
          else ": not completely converted")
      return n

/-- An integer within bounds. -/
private def integerArgument (least most : Int) : Formatting Int := do
  let shown := (← get).arguments.headD ""
  let n ← numericArgument 0 Int.ofNat leadingInteger
  if n < least || most < n then
    complainOf s!"{shown}: Numerical result out of range"
    return if n < least then least else most
  return n

private def signedArgument : Formatting Int :=
  integerArgument (-(twoTo 63 : Nat)) ((twoTo 63 : Nat) - 1)

/-- An integer without a sign; a negative one counts from the greatest one down. -/
private def unsignedArgument : Formatting Nat := do
  let n ← integerArgument (1 - (twoTo 64 : Nat)) ((twoTo 64 : Nat) - 1)
  return (n.emod (twoTo 64)).toNat

/-! ### Formats -/

/-- A width or precision: a number, or a star for an argument; and what follows. -/
private def measure (cs : List Char) : Formatting (Option Int × List Char) := do
  match cs with
  | '*' :: rest => return (some (← signedArgument), rest)
  | cs =>
    let ds := cs.takeWhile Char.isDigit
    return (natOf? (String.ofList ds) |>.map Int.ofNat, cs.drop ds.length)

/-- The conversion behind a percent sign, if it is complete, and what follows. -/
private def conversion? (cs : List Char) : Formatting (Option Conversion × List Char) := do
  let flags := cs.takeWhile "-0+ #".toList.contains
  let (width, cs) ← measure (cs.drop flags.length)
  let (precision, cs) ← match cs with
    | '.' :: rest => do
      let (n, rest) ← measure rest
      pure (some (n.getD 0), rest)
    | cs => pure (none, cs)
  match cs with
  | [] => return (none, [])
  | letter :: rest =>
    let width := width.getD 0
    return (some
      { left := flags.contains '-' || width < 0, zero := flags.contains '0', plus := flags.contains '+'
        space := flags.contains ' ', alternate := flags.contains '#', width := width.natAbs
        precision := precision.bind fun n => if n < 0 then none else some n.toNat, letter }, rest)

/-- Write one argument by a conversion; gives whether there is such a conversion. -/
private def convert (c : Conversion) : Formatting Bool := do
  let cut (bs : List UInt8) := (c.precision.map bs.take).getD bs
  match c.letter with
  | 's' =>
    write (c.pad (cut (bytesOf ((← argument).getD ""))))
    return true
  | 'b' =>
    let s := (← argument).getD ""
    let (bs, stop) := resolveEscapes (s.length + 1) s.toList
    write (c.pad (cut bs))
    modify fun w => { w with stopped := stop }
    return true
  | 'c' =>
    write (c.pad [((bytesOf ((← argument).getD "")).head?).getD 0])
    return true
  | 'd' | 'i' =>
    write (bytesOfChars (c.integerText (← signedArgument)))
    return true
  | 'o' | 'u' | 'x' | 'X' =>
    write (bytesOfChars (c.naturalText (← unsignedArgument)))
    return true
  | letter =>
    if isDecimalLetter letter then
      let x ← numericArgument (.zero false) (fun n => Double.ofInt n) leadingDouble
      write (bytesOfChars (c.decimalText x))
      return true
    else return false

private def fail (message : String) : Formatting Unit := do
  complainOf message
  modify fun w => { w with failed := true }

/-- One pass through a format. -/
private def formatOnce : (fuel : Nat) → List Char → Formatting Unit
  | 0, _ | _, [] => return
  | fuel + 1, '\\' :: rest => do
    let (b, rest) := escapeAt rest
    write b
    formatOnce fuel rest
  | fuel + 1, '%' :: '%' :: rest => do
    write [37]
    formatOnce fuel rest
  | fuel + 1, '%' :: rest => do
    match ← conversion? rest with
    | (none, _) => fail "missing format character"
    | (some c, behind) =>
      if ← convert c then
        unless (← get).stopped do formatOnce fuel behind
      else
        let directive := '%' :: rest.take (rest.length - behind.length)
        fail (String.ofList directive ++ ": invalid directive")
  | fuel + 1, c :: rest => do
    write (bytesOf (String.ofList [c]))
    formatOnce fuel rest

/-- Passes through a format until no arguments are left. -/
private def formatAll (format : List Char) : (fuel : Nat) → Formatting Unit
  | 0 => return
  | fuel + 1 => do
    let before := (← get).arguments.length
    formatOnce (format.length + 1) format
    let w ← get
    unless w.stopped || w.failed || w.arguments.isEmpty || w.arguments.length = before do
      formatAll format fuel

/-- Write arguments by a format. -/
def printf : Program := fun st args => do
  let usage : Acting Nat := do
    complain "usage: printf format [arg ...]"
    return 2
  let run (format : String) (args : List String) : Acting Nat := do
    let (_, w) := (formatAll format.toList (args.length + 1)).run { arguments := args }
    w.complaints.forM fun c => complain c
    emit st.out w.bytes
    return if w.failed then 2 else if w.complaints.isEmpty then 0 else 1
  match args with
  | [] | ["--"] => usage
  | "--" :: format :: args => run format args
  | format :: args =>
    match format.toList with
    | '-' :: c :: _ =>
      complain s!"Illegal option -{c}"
      return 2
    | _ => run format args

end StepFlow.Shell

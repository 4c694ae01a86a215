import StepFlow.Shell.Programs.Format
import StepFlow.Shell.Programs.Options

/-!
# Sequences of numbers

Numbers from one to another in equal steps, exact in decimal notation. They are written with as many
places behind the point as the first number and the step have, or by a format.

## Main definitions

* `seq`
-/

namespace StepFlow.Shell

/-- A number that bounds a sequence. -/
private structure Bound where
  /-- The number times a power of ten. -/
  scaled : Int
  /-- The exponent of that power. -/
  places : Nat
  /-- The characters that the number takes as it is given. -/
  width : Nat

/-- The number that a text denotes. -/
private def bound? (s : String) : Option Bound := do
  let cs := s.toList.dropWhile fun c => c.isWhitespace || c = '+'
  let (negative, body) := splitSign cs
  let (mantissa, exponent) := body.span fun c => c ≠ 'e' && c ≠ 'E'
  let exponent ← match exponent with
    | [] => some 0
    | _ :: e => intOf? (String.ofList e)
  let (whole, fraction) := mantissa.span (· ≠ '.')
  let digits := whole ++ fraction.drop 1
  let (n, places) ← if "0x".toList.isPrefixOf body then
      (body.drop 2).mapM asciiDigit? |>.map fun ds => (digitsValue 16 ds, (0 : Int))
    else if digits.isEmpty || !digits.all Char.isDigit then none
    else some (digitsValue 10 (digits.filterMap asciiDigit?), (fraction.drop 1).length - exponent)
  let signed : Int := if negative then -(n : Int) else n
  let scaled := signed * tenTo (-places).toNat
  let point := if 0 < places then places.toNat + 1 else 0
  let width := if exponent = 0 then
      (if negative then 1 else 0) + max whole.length 1 + point
    else (toString (signed.natAbs * tenTo (-places).toNat / tenTo places.toNat)).length + point
      + (if negative then 1 else 0)
  return ⟨scaled, places.toNat, width⟩

/-- A number given times a power of ten, with places behind the point. -/
private def placedText (places : Nat) (n : Int) : List Char :=
  (if n < 0 then ['-'] else []) ++ fixedText places false n.natAbs (tenTo places)

/-- A number in at least so many characters, with zeros behind its sign. -/
private def zeroFilled (width : Nat) (cs : List Char) : List Char :=
  let (negative, digits) := splitSign cs
  let sign := if negative then ['-'] else []
  sign ++ List.replicate (width - cs.length) '0' ++ digits

/-- A format with one conversion: what stands before it, the conversion, and what stands behind it. -/
private structure NumberFormat where
  before : List Char
  conversion : Conversion
  behind : List Char

/-- The text up to the first conversion, and what follows its percent sign. -/
private def beforeConversion : List Char → List Char × Option (List Char)
  | '%' :: '%' :: rest =>
    let (before, behind) := beforeConversion rest
    ('%' :: before, behind)
  | '%' :: rest => ([], some rest)
  | c :: rest =>
    let (before, behind) := beforeConversion rest
    (c :: before, behind)
  | [] => ([], none)

/-- A format, or what is wrong with it. -/
private def NumberFormat.read (s : String) : Except String NumberFormat := do
  let shown := quotedPhrase s
  let (before, rest) := beforeConversion s.toList
  match rest with
  | none => throw s!"format {shown} has no % directive"
  | some rest =>
    let flags := rest.takeWhile "-+#0 '".toList.contains
    let rest := rest.drop flags.length
    let width := rest.takeWhile Char.isDigit
    let rest := rest.drop width.length
    let (precision, rest) := match rest with
      | '.' :: rest =>
        let ds := rest.takeWhile Char.isDigit
        (some ((natOf? (String.ofList ds)).getD 0), rest.drop ds.length)
      | rest => (none, rest)
    let rest := if rest.head? = some 'L' then rest.drop 1 else rest
    match rest with
    | [] => throw s!"format {shown} ends in %"
    | letter :: rest =>
      if !isDecimalLetter letter then throw s!"format {shown} has unknown %{letter} directive"
      let (behind, more) := beforeConversion rest
      if more.isSome then throw s!"format {shown} has too many % directives"
      return ⟨before,
        { left := flags.contains '-', zero := flags.contains '0', plus := flags.contains '+'
          space := flags.contains ' ', alternate := flags.contains '#'
          width := (natOf? (String.ofList width)).getD 0, precision, letter }, behind⟩

/-- A number by a format. -/
private def NumberFormat.text (f : NumberFormat) (places : Nat) (n : Int) : List Char :=
  f.before ++ f.conversion.decimalText (.round (n < 0) n.natAbs (tenTo places)) ++ f.behind

/-- Negative numbers are operands. -/
private def looksNegative (a : String) : Bool :=
  match a.toList with
  | '-' :: c :: _ => c = '.' || c.isDigit
  | _ => false

/-- The arguments up to the first operand, and the operands. -/
private def splitOperands : List String → List String × List String
  | [] => ([], [])
  | "--" :: rest => ([], rest)
  | a :: rest =>
    if looksNegative a || a.toList.head? ≠ some '-' || a = "-" then ([], a :: rest)
    else if ["-s", "-f", "--separator", "--format"].contains a then
      match rest with
      | v :: rest =>
        let (options, operands) := splitOperands rest
        (a :: v :: options, operands)
      | [] => ([a], [])
    else
      let (options, operands) := splitOperands rest
      (a :: options, operands)

/-- Write numbers from one to another. -/
def seq : Program := fun st args => do
  let refuse (message : String) : Acting Nat := misused st "seq" message 1
  let (options, operands) := splitOperands args
  let known : List ProgramOption :=
    flags [["w", "equal-width"]] ++ valued [["s", "separator"], ["f", "format"]]
  match (OptionSet.mk known false).read options with
  | .error complaint => refuse complaint
  | .ok g =>
    match operands.find? fun a => (bound? a).isNone with
    | some bad =>
      let shown := quotedPhrase bad
      if bad.toLower = "nan" then refuse s!"invalid 'not-a-number' argument: {shown}"
      else refuse s!"invalid floating point argument: {shown}"
    | none =>
      let one : Bound := ⟨1, 0, 1⟩
      let bounds := match operands.filterMap bound? with
        | [last] => some (one, one, last)
        | [first, last] => some (first, one, last)
        | [first, step, last] => some (first, step, last)
        | _ => none
      match bounds with
      | none =>
        match operands[3]? with
        | some extra => extraOperand st "seq" extra
        | none => missingOperand st "seq"
      | some (first, step, last) =>
        if step.scaled = 0 then
          let shown := quotedPhrase ((operands[1]?).getD "")
          return ← refuse s!"invalid Zero increment value: {shown}"
        let places := max first.places (max step.places last.places)
        let at' (b : Bound) : Int := b.scaled * tenTo (places - b.places)
        let count := ((at' last - at' first).fdiv (at' step) + 1).toNat
        let numbers := (List.range count).map fun (i : Nat) => at' first + at' step * (i : Int)
        let shownPlaces := max first.places step.places
        let shownAt (b : Bound) : Nat :=
          let point := (if 0 < shownPlaces then 1 else 0)
          let ownPoint := (if 0 < b.places then b.places + 1 else 0)
          b.width - ownPoint + shownPlaces + point
        let width := if g.has "w" then max (shownAt first) (shownAt last) else 0
        let plain (n : Int) : List Char :=
          -- The places of the last number are not shown.
          zeroFilled width ((placedText places n).take
            ((placedText places n).length - (places - shownPlaces)
              - (if shownPlaces = 0 && 0 < places then 1 else 0)))
        let write ← match g.value? "f" with
          | none => pure plain
          | some f =>
            match NumberFormat.read f with
            | .error message =>
              emitText st.err s!"seq: {message}\n"
              return 1
            | .ok format => pure (format.text places)
        let mark := argumentChars ((g.value? "s").getD "\n")
        unless numbers.isEmpty do
          emit st.out (bytesOfChars (mark.intercalate (numbers.map write)) ++ [lineFeed])
        return 0

end StepFlow.Shell

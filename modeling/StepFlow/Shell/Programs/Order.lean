import StepFlow.Number.Numeral
import StepFlow.Shell.Programs.Options

/-!
# Order of lines

Lines are put in order by keys: parts of lines, each compared in a way of its own. Lines that all keys
take for equal are compared as wholes, unless their order is to be kept or only one of them is.

## Main definitions

* `LineOrder` — the ways to compare parts of lines
* `SortKey`, `compareLines` — keys and whole comparisons
* `sort`, `uniq`
-/

namespace StepFlow.Shell

/-! ### Numbers in lines -/

private def digitsOf (bs : List UInt8) : List UInt8 × List UInt8 := bs.span fun b => 48 ≤ b && b ≤ 57

/-- The decimal at the beginning of a text: its sign, its whole digits and those behind the point, as
far as they matter. -/
private structure Decimals where
  negative : Bool
  whole : List UInt8
  fraction : List UInt8
  deriving DecidableEq

private def decimalsAt (bs : List UInt8) : Decimals × List UInt8 :=
  let bs := bs.dropWhile isBlankByte
  let (negative, bs) := match bs with
    | 45 :: rest => (true, rest)
    | bs => (false, bs)
  let (whole, rest) := digitsOf bs
  let (fraction, rest) := match rest with
    | 46 :: rest => digitsOf rest
    | rest => ([], rest)
  (⟨negative, whole.dropWhile (· = 48), (fraction.reverse.dropWhile (· = 48)).reverse⟩, rest)

private def Decimals.isZero (d : Decimals) : Bool := d.whole.isEmpty && d.fraction.isEmpty

private def compareBytes (a b : List UInt8) : Ordering :=
  if a = b then .eq else if bytesLe a b then .lt else .gt

private def Decimals.compareSize (a b : Decimals) : Ordering :=
  (compare a.whole.length b.whole.length).then
    ((compareBytes a.whole b.whole).then (compareBytes a.fraction b.fraction))

private def Decimals.compare (a b : Decimals) : Ordering :=
  match a.negative && !a.isZero, b.negative && !b.isZero with
  | true, true => b.compareSize a
  | true, false => .lt
  | false, true => .gt
  | false, false => a.compareSize b

private def compareNumbers (a b : List UInt8) : Ordering :=
  (decimalsAt a).1.compare (decimalsAt b).1

/-- The order of the unit behind a number: a letter for powers of a thousand. -/
private def unitOrder (bs : List UInt8) : Int :=
  let (d, rest) := decimalsAt bs
  let letter := (rest.head?.map fun b => Char.ofNat b.toNat).getD ' '
  let order : Nat := (("KMGTPEZYRQ".toList.idxOf? (if letter = 'k' then 'K' else letter)).map
    (· + 1)).getD 0
  if d.isZero then 0 else if d.negative then -order else order

private def compareHuman (a b : List UInt8) : Ordering :=
  (compare (unitOrder a) (unitOrder b)).then (compareNumbers a b)

/-- The longest number at the beginning of a text, in any form that numbers have. -/
private def generalNumber? (bs : List UInt8) : Option Double :=
  let cs := (charsOf (bs.dropWhile isSpaceByte)).takeWhile fun c => c.isAlphanum || "+-.".toList.contains c
  let hexadecimal := match splitSign cs with
    | (negative, '0' :: x :: ds) =>
      let ds := ds.takeWhile fun c => c.isDigit || ('a' ≤ c.toLower && c.toLower ≤ 'f')
      if x.toLower = 'x' && !ds.isEmpty then
        some (Double.round negative (digitsValue 16 (ds.filterMap asciiDigit?)) 1)
      else none
    | _ => none
  match hexadecimal with
  | some x => some x
  | none => (List.range cs.length).findSome? fun n =>
      (readDouble (cs.take (cs.length - n))).toOption

private def compareGeneral (a b : List UInt8) : Ordering :=
  let rank (x : Option Double) : Nat := match x with
    | none => 0
    | some .nan => 1
    | some _ => 2
  let x := generalNumber? a
  let y := generalNumber? b
  (compare (rank x) (rank y)).then <|
    match x, y with
    | some x, some y => (x.compare? y).getD .eq
    | _, _ => .eq

/-- The number of a month given by the beginning of its name; zero for anything else. -/
private def monthNumber (bs : List UInt8) : Nat :=
  let name := String.ofList (charsOf (((bs.dropWhile isBlankByte).take 3).map upperByte))
  ((["JAN", "FEB", "MAR", "APR", "MAY", "JUN", "JUL", "AUG", "SEP", "OCT", "NOV", "DEC"].idxOf?
    name).map (· + 1)).getD 0

/-! ### Versions -/

/-- The rank of a character in a version: the end, a tilde, digits, letters, all else. -/
private def versionRank (bs : List UInt8) : Int :=
  match bs with
  | [] => -1
  | b :: _ =>
    let c := Char.ofNat b.toNat
    if c.isDigit then 0 else if c.isAlpha then b.toNat
    else if c = '~' then -2 else b.toNat + 256

private def startsWithDigit (bs : List UInt8) : Bool := bs.head?.any fun b => 48 ≤ b && b ≤ 57

/-- The texts from their first digits on, or how they differ before. -/
private def compareHeads : (fuel : Nat) → List UInt8 → List UInt8 →
    Ordering × List UInt8 × List UInt8
  | 0, a, b => (.eq, a, b)
  | fuel + 1, a, b =>
    if (!a.isEmpty && !startsWithDigit a) || (!b.isEmpty && !startsWithDigit b) then
      if versionRank a ≠ versionRank b then (compare (versionRank a) (versionRank b), a, b)
      else compareHeads fuel (a.drop 1) (b.drop 1)
    else (.eq, a, b)

/-- Runs of digits compare as numbers, all else by rank. -/
private def compareRuns : (fuel : Nat) → List UInt8 → List UInt8 → Ordering
  | 0, _, _ => .eq
  | fuel + 1, a, b =>
    if a.isEmpty && b.isEmpty then .eq
    else
      let (order, a, b) := compareHeads (a.length + b.length + 1) a b
      order.then <|
        let (m, a) := digitsOf (a.dropWhile (· = 48))
        let (n, b) := digitsOf (b.dropWhile (· = 48))
        (compare m.length n.length).then ((compareBytes m n).then (compareRuns fuel a b))

/-- A name without its extensions. -/
private def stemOf (bs : List UInt8) : List UInt8 :=
  let cs := charsOf bs
  let isPart (part : List Char) : Bool := match part with
    | c :: rest => (c.isAlpha || c = '~') && rest.all fun c => c.isAlphanum || c = '~'
    | [] => false
  match (cs.splitOn '.').reverse with
  | [] => bs
  | parts =>
    let kept := (parts.take (parts.length - 1)).dropWhile isPart
    bytesOfChars (['.'].intercalate (kept ++ parts.drop (parts.length - 1)).reverse)

private def compareVersions (a b : List UInt8) : Ordering :=
  let runs (a b : List UInt8) := compareRuns (a.length + b.length + 1) a b
  let hidden (bs : List UInt8) : Nat :=
    if bs.isEmpty then 0 else if bs = [46] then 1 else if bs = [46, 46] then 2
    else if bs.head? = some 46 then 3 else 4
  if a = b then .eq
  else (compare (hidden a) (hidden b)).then <|
    let visible (bs : List UInt8) : List UInt8 := if bs.head? = some 46 then bs.drop 1 else bs
    (runs (stemOf (visible a)) (stemOf (visible b))).then (runs (visible a) (visible b))

/-! ### Keys -/

/-- How parts of lines are compared. -/
structure LineOrder where
  ignoresBlanksAtStart : Bool := false
  ignoresBlanksAtEnd : Bool := false
  dictionary : Bool := false
  foldsCase : Bool := false
  general : Bool := false
  human : Bool := false
  shownOnly : Bool := false
  month : Bool := false
  numeric : Bool := false
  random : Bool := false
  version : Bool := false
  reverse : Bool := false
  deriving DecidableEq, Repr, Inhabited

namespace LineOrder

/-- The order with one more letter; for the end of a key, blanks are ignored there. -/
private def withLetter (o : LineOrder) (atEnd : Bool) : Char → Option LineOrder
  | 'b' => some (if atEnd then { o with ignoresBlanksAtEnd := true } else
      { o with ignoresBlanksAtStart := true })
  | 'd' => some { o with dictionary := true }
  | 'f' => some { o with foldsCase := true }
  | 'g' => some { o with general := true }
  | 'h' => some { o with human := true }
  | 'i' => some { o with shownOnly := true }
  | 'M' => some { o with month := true }
  | 'n' => some { o with numeric := true }
  | 'R' => some { o with random := true }
  | 'V' => some { o with version := true }
  | 'r' => some { o with reverse := true }
  | _ => none

/-- Nothing is asked for but the reverse. -/
private def isStandard (o : LineOrder) : Bool := { o with reverse := false } = {}

/-- The letters of an order that exclude each other, if there are such. -/
private def conflict? (o : LineOrder) : Option String :=
  let count := [o.numeric, o.general, o.human, o.month, o.version || o.random || o.dictionary || o.shownOnly]
  if 1 < (count.filter id).length then
    let letter (b : Bool) (c : Char) : List Char := if b then [c] else []
    some (String.ofList (letter (o.dictionary) 'd' ++ letter o.foldsCase 'f' ++ letter o.general 'g'
      ++ letter o.human 'h' ++ letter (o.shownOnly && !o.dictionary) 'i' ++ letter o.month 'M'
      ++ letter o.numeric 'n' ++ letter o.random 'R' ++ letter o.version 'V'))
  else none

/-- A text as it counts in comparisons. -/
private def counted (o : LineOrder) (bs : List UInt8) : List UInt8 :=
  let kept := bs.filter fun b =>
    let c := Char.ofNat b.toNat
    if o.dictionary then isBlankByte b || c.isAlphanum
    else !o.shownOnly || 32 ≤ b && b ≤ 126
  if o.foldsCase then kept.map upperByte else kept

/-- Compare texts. -/
def compare (o : LineOrder) (a b : List UInt8) : Ordering :=
  let plain :=
    if o.numeric then compareNumbers a b
    else if o.general then compareGeneral a b
    else if o.human then compareHuman a b
    else if o.month then Ord.compare (monthNumber a) (monthNumber b)
    else if o.version then compareVersions (o.counted a) (o.counted b)
    else compareBytes (o.counted a) (o.counted b)
  if o.reverse then plain.swap else plain

end LineOrder

/-- A part of a line that is compared. -/
structure SortKey where
  /-- The field it begins in, and how many characters of it are left out. -/
  startField : Nat := 0
  startChar : Nat := 0
  /-- The last field, and the number of its characters that belong to the key; none for all of
  them. -/
  stop : Option (Nat × Nat) := none
  order : LineOrder
  deriving DecidableEq, Repr, Inhabited

namespace SortKey

private def isGap (b : UInt8) : Bool := isBlankByte b || b = lineFeed

/-- A line from behind its first fields on. -/
private def behindFields (mark : Option UInt8) (keepsLast : Bool) : Nat → List UInt8 → List UInt8
  | 0, line => line
  | n + 1, line =>
    match mark with
    | none => behindFields mark keepsLast n ((line.dropWhile isGap).dropWhile (!isGap ·))
    | some m =>
      let rest := line.dropWhile (· ≠ m)
      behindFields mark keepsLast n (if n = 0 && keepsLast then rest else rest.drop 1)

/-- The part of a line that a key means. -/
def part (mark : Option UInt8) (k : SortKey) (line : List UInt8) : List UInt8 :=
  let start := behindFields mark false k.startField line
  let start := if k.order.ignoresBlanksAtStart then start.dropWhile isGap else start
  let start := start.drop k.startChar
  let behind := match k.stop with
    | none => []
    | some (field, 0) => behindFields mark true (field + 1) line
    | some (field, chars) =>
      let rest := behindFields mark false field line
      (if k.order.ignoresBlanksAtEnd then rest.dropWhile isGap else rest).drop chars
  start.take (start.length - behind.length)

private def number? (cs : List Char) : Option (Nat × List Char) :=
  let ds := cs.takeWhile Char.isDigit
  if ds.isEmpty then none
  else some (digitsValue 10 (ds.filterMap asciiDigit?), cs.drop ds.length)

private def counting (place : String) (cs : List Char) : Except String (Nat × List Char) :=
  match number? cs with
  | some found => return found
  | none =>
    let shown := quotedPhrase (String.ofList cs)
    throw s!"invalid number {place}: invalid count at start of {shown}"

private def letters (o : LineOrder) (atEnd : Bool) : List Char → LineOrder × List Char
  | [] => (o, [])
  | c :: rest =>
    match o.withLetter atEnd c with
    | some o => letters o atEnd rest
    | none => (o, c :: rest)

/-- The key that a text such as `2.3n,4` denotes. -/
def read (text : String) : Except String SortKey := do
  let cs := argumentChars text
  let refused (reason : String) : Except String SortKey :=
    let shown := quotedPhrase text
    throw s!"{reason}: invalid field specification {shown}"
  let (field, rest) ← counting "at field start" cs
  if field = 0 then return ← refused "field number is zero"
  let (char, rest) ← match rest with
    | '.' :: rest => counting "after '.'" rest
    | rest => pure (1, rest)
  if char = 0 then return ← refused "character offset is zero"
  let (order, rest) := letters {} false rest
  let start : SortKey := { startField := field - 1, startChar := char - 1, order }
  match rest with
  | [] => return start
  | ',' :: rest =>
    let (last, rest) ← counting "after ','" rest
    if last = 0 then return ← refused "field number is zero"
    let (chars, rest) ← match rest with
      | '.' :: rest => counting "after '.'" rest
      | rest => pure (0, rest)
    let (order, rest) := letters order true rest
    let stop := if chars = 0 then (last - 1, 0) else (last - 1, chars)
    if rest.isEmpty then return { start with stop := some stop, order }
    else refused "stray character in field spec"
  | _ => refused "stray character in field spec"

end SortKey

/-- How whole lines are compared. -/
structure LineComparison where
  keys : List SortKey
  mark : Option UInt8 := none
  /-- Lines that the keys take for equal are equal. -/
  keysOnly : Bool := false
  reverse : Bool := false

/-- Compare lines by keys. -/
private def compareKeys (mark : Option UInt8) (a b : List UInt8) : List SortKey → Ordering
  | [] => .eq
  | k :: rest =>
    (k.order.compare (k.part mark a) (k.part mark b)).then (compareKeys mark a b rest)

/-- Compare whole lines. -/
def LineComparison.compare (c : LineComparison) (a b : List UInt8) : Ordering :=
  (compareKeys c.mark a b c.keys).then <|
    if c.keysOnly && !c.keys.isEmpty then .eq
    else if c.reverse then compareBytes b a else compareBytes a b

/-- The first of neighbours that are equal. -/
def LineComparison.distinct (c : LineComparison) : List (List UInt8) → List (List UInt8)
  | a :: b :: rest =>
    if c.compare a b = .eq then c.distinct (a :: rest) else a :: c.distinct (b :: rest)
  | ls => ls
termination_by ls => ls.length

/-- Lists in order as one list in order. -/
private def mergeAll (le : List UInt8 → List UInt8 → Bool) (lists : List (List (List UInt8))) :
    List (List UInt8) :=
  lists.foldl (fun merged l => List.merge merged l le) []

/-- The first line that is out of order, with its number. -/
private def disorder? (c : LineComparison) (unique : Bool) : Nat → List (List UInt8) →
    Option (Nat × List UInt8)
  | n, a :: b :: rest =>
    let order := c.compare a b
    if order = .gt || unique && order = .eq then some (n + 1, b)
    else disorder? c unique (n + 1) (b :: rest)
  | _, _ => none

/-! ### Sorting -/

private def sortOptions : List ProgramOption :=
  flags [["b", "ignore-leading-blanks"], ["c"], ["C"], ["d", "dictionary-order"],
    ["f", "ignore-case"], ["g", "general-numeric-sort"], ["h", "human-numeric-sort"],
    ["i", "ignore-nonprinting"], ["M", "month-sort"], ["m", "merge"], ["n", "numeric-sort"],
    ["R", "random-sort"], ["r", "reverse"], ["s", "stable"], ["u", "unique"], ["V", "version-sort"],
    ["z", "zero-terminated"], ["debug"]]
  ++ valued [["k", "key"], ["o", "output"], ["S", "buffer-size"], ["t", "field-separator"],
    ["T", "temporary-directory"], ["parallel"], ["batch-size"], ["compress-program"], ["random-source"],
    ["files0-from"]] ++ optionallyValued [["check"]] ++ valued [["sort"]]

private def sortWords : Fields Char :=
  [("general-numeric", 'g'), ("human-numeric", 'h'), ("month", 'M'), ("numeric", 'n'), ("random", 'R'),
   ("version", 'V')]

/-- The order that options ask for. -/
private def globalOrder (g : Given) : LineOrder :=
  let letters := g.options.filterMap fun o =>
    if o.1 = "sort" then o.2 >>= sortWords.get? else o.1.toList.head?
  letters.foldl (fun (o : LineOrder) c =>
    let next := (o.withLetter false c).getD o
    if c = 'b' then { next with ignoresBlanksAtEnd := true } else next) {}

/-- The byte that separates fields, if one is given. -/
private def fieldMark (g : Given) : Except String (Option UInt8) :=
  match g.value? "t" with
  | none => return none
  | some "" => throw "empty tab"
  | some "\\0" => return some 0
  | some s =>
    match bytesOf s with
    | [b] => return some b
    | _ =>
      let shown := quotedPhrase s
      throw s!"multi-character tab {shown}"

/-- The comparison that options ask for. -/
private def comparisonOf (g : Given) : Except String LineComparison := do
  let order := globalOrder g
  let keys ← (g.values "k").mapM SortKey.read
  let mark ← fieldMark g
  let keys := keys.map fun k =>
    if k.order = {} then { k with order } else k
  let keys := if keys.isEmpty && !order.isStandard then [{ order }] else keys
  match (keys.map (·.order)).findSome? LineOrder.conflict? with
  | some letters => throw s!"options '-{letters}' are incompatible"
  | none =>
    return { keys, mark, keysOnly := g.has "s" || g.has "u", reverse := order.reverse }

/-- Put lines in order. -/
def sort : Program := withOptions "sort" 2 sortOptions fun st g => do
  match comparisonOf g with
  | .error message =>
    emitText st.err s!"sort: {message}\n"
    return 2
  | .ok c =>
    let nul := lineMark (g.has "z")
    let quiet := g.has "C" || ["quiet", "silent"].contains ((g.value? "check").getD "")
    let checks := g.has "c" || g.has "C" || g.has "check"
    if checks && 1 < g.operands.length then
      let shown := quotedPhrase ((g.operands[1]?).getD "")
      emitText st.err s!"sort: extra operand {shown} not allowed with -c\n"
      return 2
    let mut contents : List (List (List UInt8)) := []
    for name in (if g.operands.isEmpty then ["-"] else g.operands) do
      match ← fileOrInput name with
      | .ok bs => contents := contents ++ [piecesOf nul bs]
      | .error e =>
        let shown := shownName name
        let doing := if e = .isDirectory then "read failed" else "cannot read"
        emitText st.err s!"sort: {doing}: {shown}: {e.description}\n"
        return 2
    if checks then
      match disorder? c (g.has "u") 1 contents.flatten with
      | none => return 0
      | some (n, line) =>
        unless quiet do
          let name := g.operands.headD "-"
          emitText st.err s!"sort: {name}:{n}: disorder: "
          emit st.err (line ++ [lineFeed])
        return 1
    let le (a b : List UInt8) : Bool := c.compare a b ≠ .gt
    let sorted := if g.has "m" then mergeAll le contents else contents.flatten.mergeSort le
    let out := ended nul (if g.has "u" then c.distinct sorted else sorted)
    match g.value? "o" with
    | none =>
      emit st.out out
      return 0
    | some name =>
      match ← fileSink name false with
      | .ok sink =>
        emit sink out
        return 0
      | .error e =>
        let shown := shownName name
        emitText st.err s!"sort: open failed: {shown}: {e.description}\n"
        return 2

/-! ### Repeated lines -/

/-- A line from behind its first fields and characters on, as far as it counts. -/
private def comparedPart (fields chars : Nat) (width : Option Nat) (ignoresCase : Bool)
    (line : List UInt8) : List UInt8 :=
  let rest := (List.range fields).foldl (fun (l : List UInt8) _ =>
    (l.dropWhile isBlankByte).dropWhile (!isBlankByte ·)) line
  let rest := rest.drop chars
  let rest := (width.map rest.take).getD rest
  if ignoresCase then rest.map lowerByte else rest

private def uniqOptions : List ProgramOption :=
  flags [["c", "count"], ["d", "repeated"], ["D"], ["i", "ignore-case"], ["u", "unique"],
    ["z", "zero-terminated"]]
  ++ valued [["f", "skip-fields"], ["s", "skip-chars"], ["w", "check-chars"]]
  ++ optionallyValued [["all-repeated"], ["group"]]

/-- The count of an option, or what is wrong with it. -/
private def countGiven (g : Given) (name purpose : String) : Except String (Option Nat) :=
  match g.value? name with
  | none => return none
  | some s =>
    match amount? s with
    | some n => return some n
    | none => throw s!"uniq: {s}: invalid number of {purpose}\n"

/-- Groups of lines, set apart by empty ones. -/
private def setApart (way : String) (groups : List (List (List UInt8))) : List (List UInt8) :=
  match way with
  | "separate" => (groups.intersperse [[]]).flatten
  | "prepend" => groups.flatMap ([] :: ·)
  | "append" => groups.flatMap (· ++ [[]])
  | "both" => groups.flatMap ([] :: ·) ++ (if groups.isEmpty then [] else [[]])
  | _ => groups.flatten

/-- Neighbouring lines that are equal, as one line each, or only the repeated or the single ones. -/
def uniq : Program := withOptions "uniq" 1 uniqOptions fun st g => do
  let counts : Except String (Option Nat × Option Nat × Option Nat) := do
    let fields ← countGiven g "f" "fields to skip"
    let chars ← countGiven g "s" "bytes to skip"
    return (fields, chars, ← countGiven g "w" "bytes to compare")
  match counts, g.operands with
  | .error message, _ =>
    emitText st.err message
    return 1
  | .ok _, _ :: _ :: extra :: _ => extraOperand st "uniq" extra
  | .ok (fields, chars, width), operands =>
    let showsAll := g.has "D" || g.has "all-repeated"
    if showsAll && g.has "c" then
      return ← misused st "uniq" "printing all duplicated lines and repeat counts is meaningless" 1
    if g.has "group" && (showsAll || g.has "c" || g.has "d" || g.has "u") then
      return ← misused st "uniq" "--group is mutually exclusive with -c/-d/-D/-u" 1
    let name := operands.headD "-"
    match ← fileOrInput name with
    | .error e =>
      if e = .isDirectory then
        emitText st.err s!"uniq: error reading {quotedName name}: {e.description}\n"
      else emitText st.err (missing "uniq" name e ++ "\n")
      return 1
    | .ok bs =>
      let nul := lineMark (g.has "z")
      let part := comparedPart (fields.getD 0) (chars.getD 0) width (g.has "i")
      let groups := (piecesOf nul bs).splitBy fun a b => part a = part b
      let out :=
        if g.has "group" then setApart ((g.value? "group").getD "separate") groups
        else if showsAll then
          setApart ((g.value? "all-repeated").getD "none") (groups.filter fun ls => 1 < ls.length)
        else
          let chosen := groups.filter fun ls => if ls.length = 1 then !g.has "d" else !g.has "u"
          chosen.map fun ls =>
            (if g.has "c" then bytesOf (aligned 7 ls.length ++ " ") else []) ++ ls.headD []
      match operands with
      | [_, target] =>
        match ← fileSink target false with
        | .ok sink =>
          emit sink (ended nul out)
          return 0
        | .error e =>
          emitText st.err (missing "uniq" target e ++ "\n")
          return 1
      | _ =>
        emit st.out (ended nul out)
        return 0

end StepFlow.Shell

import StepFlow.Shell.Programs.Options

/-!
# Parts

Programs that take things apart: files into smaller files, numbers into primes, and relations into an
order.

## Main definitions

* `split` — files of a number of lines or bytes
* `factor` — prime factors
* `tsort` — an order that agrees with pairs
-/

namespace StepFlow.Shell

/-! ### Files -/

/-- How a file is taken apart. -/
private inductive Cut where
  | lines (n : Nat)
  | bytes (n : Nat)
  /-- Whole lines, as many as fit in a number of bytes. -/
  | fitting (n : Nat)
  /-- A number of parts, of whole lines or not. -/
  | parts (n : Nat) (wholeLines : Bool)

private def chunksOf {α : Type} (n : Nat) : (fuel : Nat) → List α → List (List α)
  | 0, _ | _, [] => []
  | fuel + 1, xs => xs.take (max n 1) :: chunksOf n fuel (xs.drop (max n 1))

/-- Lines in groups whose sizes stay within a number of bytes, as far as the lines do. -/
private def fittingGroups (n : Nat) : (current : List UInt8) → List (List UInt8) → List (List UInt8)
  | current, [] => if current.isEmpty then [] else [current]
  | current, line :: rest =>
    if current.isEmpty then fittingGroups n line rest
    else if current.length + line.length ≤ n then fittingGroups n (current ++ line) rest
    else current :: fittingGroups n line rest

/-- The part of a text in which each line begins, by the bytes before it. -/
private def linesByPart (size count : Nat) : (before : Nat) → List (List UInt8) → List (Nat × List UInt8)
  | _, [] => []
  | before, line :: rest =>
    (min (before / max size 1) (count - 1), line) :: linesByPart size count (before + line.length) rest

private def Cut.apply (bytes : List UInt8) : Cut → List (List UInt8)
  | .lines n => (chunksOf n (bytes.length + 1) (fullLines bytes)).map List.flatten
  | .bytes n => chunksOf n (bytes.length + 1) bytes
  | .fitting n =>
    (fittingGroups n [] (fullLines bytes)).flatMap fun group =>
      if group.length ≤ n then [group] else chunksOf n group.length group
  | .parts n wholeLines =>
    let size := bytes.length / max n 1
    if wholeLines then
      let placed := linesByPart size n 0 (fullLines bytes)
      (List.range n).map fun i => (placed.filter (·.1 = i)).flatMap (·.2)
    else (List.range n).map fun i =>
      let start := i * size + min i (bytes.length % max n 1)
      let length := size + if i < bytes.length % max n 1 then 1 else 0
      (bytes.drop start).take length

/-- The endings of the names of parts: numbers or letters. -/
private def suffix (numeric : Bool) (width n : Nat) : String :=
  let base := if numeric then 10 else 26
  let digits := (List.range width).map fun i =>
    (List.range (width - 1 - i)).foldl (fun m _ => m / base) n % base
  String.ofList (digits.map fun d => Char.ofNat ((if numeric then '0'.toNat else 'a'.toNat) + d))

private def splitOptions : List ProgramOption :=
  flags [["d"], ["e", "elide-empty-files"], ["verbose"], ["x"]]
    ++ valued [["a", "suffix-length"], ["b", "bytes"], ["C", "line-bytes"], ["l", "lines"],
      ["n", "number"], ["additional-suffix"], ["t", "separator"]]
    ++ optionallyValued [["numeric-suffixes"]]

/-- How a file is to be taken apart, or what is wrong with that. -/
private def cutOf (g : Given) : Except String Cut := do
  let positive (kind : String) (text : String) : Except String Nat :=
    match amount? text with
    | some n => if n = 0 then throw s!"invalid number of {kind}: '{text}'" else return n
    | none => throw s!"invalid number of {kind}: '{text}'"
  match g.last? ["b", "C", "l", "n"] with
  | some "b" => return .bytes (← positive "bytes" ((g.value? "b").getD ""))
  | some "C" => return .fitting (← positive "lines" ((g.value? "C").getD ""))
  | some "n" =>
    let text := (g.value? "n").getD ""
    match text.splitOn "/" with
    | ["l", n] => return .parts (← positive "chunks" n) true
    | _ => return .parts (← positive "chunks" text) false
  | _ => return .lines (← positive "lines" ((g.value? "l").getD "1000"))

/-- Write a file as several smaller ones. -/
def split : Program := withOptions "split" 1 splitOptions fun st g => do
  let failed (message : String) : Acting Nat := do
    emitText st.err s!"split: {message}\n"
    return 1
  match cutOf g, g.operands with
  | .error message, _ => failed message
  | _, _ :: _ :: extra :: _ => extraOperand st "split" extra
  | .ok cut, operands =>
    let file := operands.headD "-"
    let stem := (operands[1]?).getD "x"
    let numeric := g.has "d" || g.has "numeric-suffixes"
    let first := ((g.value? "numeric-suffixes") >>= natOf?).getD 0
    match ← fileOrInput file with
    | .error e =>
      let shown := quotedName file
      failed s!"cannot open {shown} for reading: {e.description}"
    | .ok bytes =>
      let parts := cut.apply bytes
      let width := ((g.value? "a") >>= natOf?).getD 2
      for (part, i) in parts.zipIdx do
        let name := stem ++ suffix numeric width (first + i) ++ (g.value? "additional-suffix").getD ""
        let shown := quotedName name
        if g.has "verbose" then emitText st.out s!"creating file {shown}\n"
        match ← fileSink name false with
        | .ok sink => emit sink part
        | .error e => return ← failed s!"{shown}: {e.description}"
      return 0

/-! ### Numbers -/

/-- The prime factors of a number from a divisor on. -/
private def factorsFrom : (fuel divisor n : Nat) → List Nat
  | 0, _, n => if n < 2 then [] else [n]
  | fuel + 1, divisor, n =>
    if n < 2 then []
    else if n < divisor * divisor then [n]
    else if n % divisor = 0 then divisor :: factorsFrom fuel divisor (n / divisor)
    else factorsFrom fuel (divisor + if divisor = 2 then 1 else 2) n

/-- The most divisors that are tried. -/
private def factorTrials : Nat := 4000000

/-- Show the prime factors of numbers. -/
def factor : Program := withOptions "factor" 1 (flags [["h", "exponents"]]) fun st g => do
  let texts ← if g.operands.isEmpty then
      pure ((((textOf (← takeInput)).splitToList Char.isWhitespace)).filter (· ≠ ""))
    else pure g.operands
  let mut complete := true
  for text in texts do
    let digits := text.toList.dropWhile fun c => c = ' ' || c = '+'
    match natOf? (String.ofList digits) with
    | some n =>
      let factors := (factorsFrom factorTrials 2 n).map fun f => " " ++ toString f
      emitText st.out (toString n ++ ":" ++ String.join factors ++ "\n")
    | none =>
      let shown := quotedPhrase text
      emitText st.err s!"factor: {shown} is not a valid positive integer\n"
      complete := false
  return statusOf complete

/-! ### Orders -/

/-- Pairs of a word that comes before another one. -/
private abbrev OrderPairs := List (String × String)

/-- Words that come first, taken one by one: each makes room for those that only it came before. `open'`
are the words that nothing comes before. -/
private def orderFrom : (fuel : Nat) → (open' left : List String) → OrderPairs → List String × List String
  | 0, _, left, _ => ([], left)
  | _, [], left, _ => ([], left)
  | fuel + 1, w :: open', left, pairs =>
    let rest := pairs.filter (·.1 ≠ w)
    let followers := ((pairs.filter (·.1 = w)).map (·.2)).reverse.eraseDups
    let freed := followers.filter fun f => rest.all (·.2 ≠ f)
    let (order, stuck) := orderFrom fuel (open' ++ freed) (left.filter (· ≠ w)) rest
    (w :: order, stuck)

/-- Words in pairs. -/
private def pairsOf : List String → OrderPairs
  | a :: b :: rest => (a, b) :: pairsOf rest
  | _ => []

/-- The words of a loop among pairs, found by going back from a word. -/
private def loopFrom (pairs : OrderPairs) : (fuel : Nat) → (seen : List String) → String → List String
  | 0, seen, _ => seen
  | fuel + 1, seen, w =>
    if seen.contains w then w :: (seen.takeWhile (· ≠ w))
    else match pairs.find? (·.2 = w) with
      | some (before, _) => loopFrom pairs fuel (w :: seen) before
      | none => seen

/-- All words in an order, and the loops that had to be opened for it. -/
private def orderOf : (fuel : Nat) → (left : List String) → OrderPairs → List String × List (List String)
  | 0, left, _ => (left, [])
  | fuel + 1, left, pairs =>
    let (order, stuck) := orderFrom (left.length + 1) (left.filter fun w => pairs.all (·.2 ≠ w)) left pairs
    match stuck with
    | [] => (order, [])
    | first :: _ =>
      let inside := pairs.filter fun p => stuck.contains p.1
      let loop := (loopFrom inside (stuck.length + 1) [] first).eraseDups
      let loop := match (sortedTexts loop).head? with
        | some least => loop.dropWhile (· ≠ least) ++ loop.takeWhile (· ≠ least)
        | none => loop
      let opened := match loop.getLast?, loop.head? with
        | some last, some head => inside.filter (· ≠ (last, head))
        | _, _ => inside
      let (rest, loops) := orderOf fuel stuck opened
      (order ++ rest, loop :: loops)

/-- Show words in an order that agrees with pairs of them. -/
def tsort : Program := withOptions "tsort" 1 [] fun st g => do
  match g.operands with
  | _ :: extra :: _ => extraOperand st "tsort" extra
  | operands =>
    let file := operands.headD "-"
    match ← fileOrInput file with
    | .error e =>
      emitText st.err (missing "tsort" file e ++ "\n")
      return 1
    | .ok bytes =>
      let words := ((textOf bytes).splitToList Char.isWhitespace).filter (· ≠ "")
      if words.length % 2 = 1 then
        emitText st.err s!"tsort: {file}: input contains an odd number of tokens\n"
        return 1
      let pairs := (pairsOf words).filter fun p => p.1 ≠ p.2
      let all := sortedTexts words.eraseDups
      let (order, loops) := orderOf (all.length + 1) all pairs
      for loop in loops do
        emitText st.err (s!"tsort: {file}: input contains a loop:\n"
          ++ String.join (loop.map fun w => s!"tsort: {w}\n"))
      emitText st.out (String.join (order.map (· ++ "\n")))
      return statusOf loops.isEmpty

end StepFlow.Shell

import StepFlow.Shell.Programs.Basic

/-!
# Programs that write text

## Main definitions

* `resolveEscapes` — escapes in text
* `echo`, `yes`
-/

namespace StepFlow.Shell

/-! ### Escapes -/

/-- Octal digits at the beginning, at most `most`, their value, and what follows. -/
private def octal (most : Nat) (cs : List Char) : Nat × List Char :=
  let ds := (cs.take most).takeWhile fun c => '0' ≤ c && c ≤ '7'
  (digitsValue 8 (ds.filterMap asciiDigit?), cs.drop ds.length)

/-- The byte of a one-letter escape. -/
private def letterEscape? : Char → Option UInt8
  | 'a' => some 7
  | 'e' => some 27
  | 'b' => some 8
  | 't' => some 9
  | 'n' => some 10
  | 'v' => some 11
  | 'f' => some 12
  | 'r' => some 13
  | '\\' => some 92
  | _ => none

/-- The escape behind a backslash: its bytes and what follows it. -/
def escapeAt : List Char → List UInt8 × List Char
  | [] => ([92], [])
  | c :: rest =>
    if '0' ≤ c && c ≤ '7' then
      let (n, rest) := octal 3 (c :: rest)
      ([UInt8.ofNat n], rest)
    else match letterEscape? c with
      | some b => ([b], rest)
      | none => (92 :: bytesOf (String.ofList [c]), rest)

/-- A text with its escapes resolved, and whether output ends with it. -/
def resolveEscapes : (fuel : Nat) → List Char → List UInt8 × Bool
  | 0, _ | _, [] => ([], false)
  | _ + 1, '\\' :: 'c' :: _ => ([], true)
  | fuel + 1, '\\' :: '0' :: rest =>
    let (n, rest) := octal 3 rest
    let (bs, stop) := resolveEscapes fuel rest
    (UInt8.ofNat n :: bs, stop)
  | fuel + 1, '\\' :: rest =>
    let (b, rest) := escapeAt rest
    let (bs, stop) := resolveEscapes fuel rest
    (b ++ bs, stop)
  | fuel + 1, c :: rest =>
    let (bs, stop) := resolveEscapes fuel rest
    (bytesOf (String.ofList [c]) ++ bs, stop)

/-! ### Writing text -/

/-- Write the arguments with their escapes resolved. -/
def echo : Program := fun st args => do
  let (newline, args) := match args with
    | "-n" :: rest => (false, rest)
    | args => (true, args)
  let cs := (" ".intercalate args).toList
  let (bs, stop) := resolveEscapes (cs.length + 1) cs
  emit st.out (if newline && !stop then bs ++ [lineFeed] else bs)
  return 0

/-- The bytes that a pipe holds before its writer has to wait. -/
def pipeCapacity : Nat := 65536

/-- One line over and over: as much as a pipe holds before its reader is gone; anywhere else it never
ends. -/
def yes : Program := fun st args => do
  match st.out with
  | .pipe _ =>
    let line := bytesOf ((if args.isEmpty then "y" else " ".intercalate args) ++ "\n")
    emit st.out (List.replicate (pipeCapacity / line.length) line).flatten
    return 141
  | _ => throw .timedOut

end StepFlow.Shell

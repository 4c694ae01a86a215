import StepFlow.Number.Numeral

/-!
# Digests of bytes

Numbers of a fixed size that stand for sequences of bytes: those of the MD5 and SHA families, which work
on blocks of words, and sums for finding errors.

## Main definitions

* `md5`, `sha1`, `sha2` — digests
* `cyclicSum`, `rotatingSum`, `plainSum` — sums
-/

namespace StepFlow.Digest

/-! ### Words -/

/-- Turn the lowest `width` bits to the left. -/
private def turned (width n x : Nat) : Nat :=
  (x * twoTo n) % twoTo width ||| x / twoTo (width - n)

private def complement (width x : Nat) : Nat := twoTo width - 1 - x

/-- The bytes of a number, the one that counts most first. -/
private def bigBytes (count n : Nat) : List UInt8 :=
  (List.range count).map fun i => UInt8.ofNat (n / twoTo (8 * (count - 1 - i)) % 256)

private def littleBytes (count n : Nat) : List UInt8 := (bigBytes count n).reverse

private def bigNumber (bytes : List UInt8) : Nat := bytes.foldl (fun n b => n * 256 + b.toNat) 0

/-- Pieces of a size. -/
private def chunks {α : Type} (size : Nat) : (fuel : Nat) → List α → List (List α)
  | 0, _ | _, [] => []
  | fuel + 1, xs => xs.take size :: chunks size fuel (xs.drop size)

private def piecesOfSize {α : Type} (size : Nat) (xs : List α) : List (List α) := chunks size xs.length xs

/-- Bytes filled up to whole blocks: a bit, zeros, and the number of bits at the end. -/
private def filledUp (block lengthSize : Nat) (lengthBytes : List UInt8) (bytes : List UInt8) :
    List UInt8 :=
  let used := (bytes.length + 1 + lengthSize) % block
  let zeros := if used = 0 then 0 else block - used
  bytes ++ 128 :: List.replicate zeros 0 ++ lengthBytes

/-- The words of two lists added one by one. -/
private def addedWords (width : Nat) (xs ys : List Nat) : List Nat :=
  (xs.zip ys).map fun (x, y) => (x + y) % twoTo width

/-! ### MD5 -/

/-- The parts behind the point of the sines of 1, 2, 3 and so on, as words. -/
private def sineWords : List Nat :=
  [3614090360, 3905402710, 606105819, 3250441966, 4118548399, 1200080426, 2821735955, 4249261313,
   1770035416, 2336552879, 4294925233, 2304563134, 1804603682, 4254626195, 2792965006, 1236535329,
   4129170786, 3225465664, 643717713, 3921069994, 3593408605, 38016083, 3634488961, 3889429448,
   568446438, 3275163606, 4107603335, 1163531501, 2850285829, 4243563512, 1735328473, 2368359562,
   4294588738, 2272392833, 1839030562, 4259657740, 2763975236, 1272893353, 4139469664, 3200236656,
   681279174, 3936430074, 3572445317, 76029189, 3654602809, 3873151461, 530742520, 3299628645,
   4096336452, 1126891415, 2878612391, 4237533241, 1700485571, 2399980690, 4293915773, 2240044497,
   1873313359, 4264355552, 2734768916, 1309151649, 4149444226, 3174756917, 718787259, 3951481745]

private def md5Turns : List (List Nat) := [[7, 12, 17, 22], [5, 9, 14, 20], [4, 11, 16, 23], [6, 10, 15, 21]]

/-- One step for a word of a block. -/
private def md5Step (words : List Nat) (state : List Nat) (i : Nat) : List Nat :=
  match state with
  | [a, b, c, d] =>
    let (f, k) := match i / 16 with
      | 0 => ((b &&& c) ||| (complement 32 b &&& d), i)
      | 1 => ((d &&& b) ||| (complement 32 d &&& c), 5 * i + 1)
      | 2 => (b ^^^ c ^^^ d, 3 * i + 5)
      | _ => (c ^^^ (b ||| complement 32 d), 7 * i)
    let turn := ((md5Turns[i / 16]?).getD [])[i % 4]?.getD 0
    let sum := (a + f + (sineWords[i]?).getD 0 + (words[k % 16]?).getD 0) % twoTo 32
    [d, (b + turned 32 turn sum) % twoTo 32, b, c]
  | other => other

def md5 (bytes : List UInt8) : List UInt8 :=
  let full := filledUp 64 8 (littleBytes 8 (bytes.length * 8)) bytes
  let start := [1732584193, 4023233417, 2562383102, 271733878]
  let final := (piecesOfSize 64 full).foldl (fun state block =>
    let words := (piecesOfSize 4 block).map fun w => bigNumber w.reverse
    addedWords 32 state ((List.range 64).foldl (md5Step words) state)) start
  final.flatMap (littleBytes 4)

/-! ### SHA-1 -/

/-- The words of a block and those made from them; the last one comes first. -/
private def sha1Words : (count : Nat) → List Nat → List Nat
  | 0, words => words
  | count + 1, words =>
    let at' (i : Nat) : Nat := (words[i]?).getD 0
    sha1Words count (turned 32 1 (at' 2 ^^^ at' 7 ^^^ at' 13 ^^^ at' 15) :: words)

private def sha1Step (state : List Nat) (word : Nat × Nat) : List Nat :=
  match state with
  | [a, b, c, d, e] =>
    let (f, k) := match word.2 / 20 with
      | 0 => ((b &&& c) ||| (complement 32 b &&& d), 1518500249)
      | 1 => (b ^^^ c ^^^ d, 1859775393)
      | 2 => ((b &&& c) ||| (b &&& d) ||| (c &&& d), 2400959708)
      | _ => (b ^^^ c ^^^ d, 3395469782)
    [(turned 32 5 a + f + e + k + word.1) % twoTo 32, a, turned 32 30 b, c, d]
  | other => other

def sha1 (bytes : List UInt8) : List UInt8 :=
  let full := filledUp 64 8 (bigBytes 8 (bytes.length * 8)) bytes
  let start := [1732584193, 4023233417, 2562383102, 271733878, 3285377520]
  let final := (piecesOfSize 64 full).foldl (fun state block =>
    let words := (sha1Words 64 ((piecesOfSize 4 block).map bigNumber).reverse).reverse
    addedWords 32 state (words.zipIdx.foldl sha1Step state)) start
  final.flatMap (bigBytes 4)

/-! ### SHA-2 -/

/-- The greatest number whose image is at most `bound`, up to `2 ^ bits`; images grow with numbers. -/
private def greatestBelow (image : Nat → Nat) (bound : Nat) : (bits : Nat) → (low : Nat) → Nat
  | 0, low => low
  | bits + 1, low =>
    let next := low + twoTo bits
    greatestBelow image bound bits (if image next ≤ bound then next else low)

private def isPrime (n : Nat) : Bool :=
  2 ≤ n && ((List.range n).drop 2).all fun d => n % d ≠ 0

private def primes : List Nat := (List.range 410).filter isPrime

/-- The first bits behind the point of a square root. -/
private def rootFraction (width p : Nat) : Nat :=
  greatestBelow (fun r => r * r) (p * twoTo (2 * width)) (width + 8) 0 % twoTo width

private def cubeRootFraction (width p : Nat) : Nat :=
  greatestBelow (fun r => r * r * r) (p * twoTo (3 * width)) (width + 8) 0 % twoTo width

/-- A member of the SHA-2 family. -/
structure Sha2 where
  /-- The bits of a word. -/
  width : Nat
  rounds : Nat
  /-- The bytes of a digest. -/
  size : Nat
  start : List Nat
  /-- How far words are turned: in rounds, and in making further words, where the last is a shift. -/
  roundTurns : List Nat × List Nat
  wordTurns : List Nat × List Nat

private def shortTurns : (List Nat × List Nat) × (List Nat × List Nat) :=
  (([2, 13, 22], [6, 11, 25]), ([7, 18, 3], [17, 19, 10]))

private def longTurns : (List Nat × List Nat) × (List Nat × List Nat) :=
  (([28, 34, 39], [14, 18, 41]), ([1, 8, 7], [19, 61, 6]))

def sha256 : Sha2 :=
  ⟨32, 64, 32, (primes.take 8).map (rootFraction 32), shortTurns.1, shortTurns.2⟩

def sha224 : Sha2 :=
  ⟨32, 64, 28, ((primes.drop 8).take 8).map fun p => rootFraction 64 p % twoTo 32, shortTurns.1,
    shortTurns.2⟩

def sha512 : Sha2 :=
  ⟨64, 80, 64, (primes.take 8).map (rootFraction 64), longTurns.1, longTurns.2⟩

def sha384 : Sha2 :=
  ⟨64, 80, 48, ((primes.drop 8).take 8).map (rootFraction 64), longTurns.1, longTurns.2⟩

/-- A word turned to the right by several amounts, joined. -/
private def Sha2.mixed (f : Sha2) (turns : List Nat) (x : Nat) : Nat :=
  (turns.map fun n => turned f.width (f.width - n) x).foldl (· ^^^ ·) 0

/-- The same, but the last one is a shift. -/
private def Sha2.shifted (f : Sha2) (turns : List Nat) (x : Nat) : Nat :=
  f.mixed turns.dropLast x ^^^ x / twoTo (turns.getLast?.getD 0)

/-- The words of a block and those made from them; the last one comes first. -/
private def Sha2.words (f : Sha2) : (count : Nat) → List Nat → List Nat
  | 0, words => words
  | count + 1, words =>
    let at' (i : Nat) : Nat := (words[i]?).getD 0
    let next := at' 15 + f.shifted f.wordTurns.1 (at' 14) + at' 6 + f.shifted f.wordTurns.2 (at' 1)
    f.words count (next % twoTo f.width :: words)

private def Sha2.step (f : Sha2) (state : List Nat) (word : Nat × Nat) : List Nat :=
  match state with
  | [a, b, c, d, e, g, h, i] =>
    let choice := (e &&& g) ^^^ (complement f.width e &&& h)
    let majority := (a &&& b) ^^^ (a &&& c) ^^^ (b &&& c)
    let first := i + f.mixed f.roundTurns.2 e + choice + word.2 + word.1
    let second := f.mixed f.roundTurns.1 a + majority
    [(first + second) % twoTo f.width, a, b, c, (d + first) % twoTo f.width, e, g, h]
  | other => other

def sha2 (f : Sha2) (bytes : List UInt8) : List UInt8 :=
  let wordSize := f.width / 8
  let full := filledUp (16 * wordSize) (2 * wordSize) (bigBytes (2 * wordSize) (bytes.length * 8)) bytes
  let roundWords := (primes.take f.rounds).map (cubeRootFraction f.width)
  let final := (piecesOfSize (16 * wordSize) full).foldl (fun state block =>
    let words := (f.words (f.rounds - 16) ((piecesOfSize wordSize block).map bigNumber).reverse).reverse
    addedWords f.width state ((words.zip roundWords).foldl f.step state)) f.start
  (final.flatMap (bigBytes wordSize)).take f.size

/-- The hexadecimal digits of bytes. -/
def hexadecimal (bytes : List UInt8) : String :=
  String.ofList (bytes.flatMap fun b => (Nat.toDigits 16 (b.toNat + 256)).drop 1)

/-! ### Sums -/

/-- One bit of a remainder. -/
private def cyclicBit (n : Nat) (_ : Nat) : Nat :=
  if n / twoTo 31 = 1 then (2 * n) % twoTo 32 ^^^ 79764919 else 2 * n

private def cyclicByte (n : Nat) (b : UInt8) : Nat :=
  (List.range 8).foldl cyclicBit (n ^^^ b.toNat * twoTo 24)

/-- The bytes of a number that are needed, the one that counts least first. -/
private def lengthBytes : (fuel : Nat) → Nat → List UInt8
  | 0, _ | _, 0 => []
  | fuel + 1, n => UInt8.ofNat (n % 256) :: lengthBytes fuel (n / 256)

/-- The remainder of bytes, followed by their number, as coefficients of a polynomial. -/
def cyclicSum (bytes : List UInt8) : Nat :=
  complement 32 ((bytes ++ lengthBytes 16 bytes.length).foldl cyclicByte 0)

/-- A sum of 16 bits that is turned by one bit before each byte is added. -/
def rotatingSum (bytes : List UInt8) : Nat :=
  bytes.foldl (fun n b => (n / 2 + n % 2 * 32768 + b.toNat) % 65536) 0

/-- The sum of all bytes, folded to 16 bits. -/
def plainSum (bytes : List UInt8) : Nat :=
  let n := bytes.foldl (fun n b => n + b.toNat) 0 % twoTo 32
  let r := n % 65536 + n / 65536
  r % 65536 + r / 65536

end StepFlow.Digest

import StepFlow.Shell.Programs.Options

/-!
# Bytes in other forms

Programs that show bytes as numbers or letters, and that write bytes with few letters or read them back.

## Main definitions

* `od` — bytes as numbers or characters, in lines with addresses
* `base64`, `base32`
-/

namespace StepFlow.Shell

/-! ### Fields -/

/-- How the bytes of a field are shown. -/
private inductive FieldForm where
  | octal
  | hexadecimal
  | unsigned
  | signed
  | character
  | name
  deriving DecidableEq

/-- How the bytes of a line are shown: as fields of some size. -/
private structure LineForm where
  form : FieldForm
  size : Nat
  /-- The characters stand behind the fields. -/
  showsText : Bool := false

/-- The digits that the greatest number of a field has. -/
private def digitCount (base size : Nat) : Nat := (Nat.toDigits base (twoTo (8 * size) - 1)).length

private def LineForm.width (f : LineForm) : Nat :=
  match f.form with
  | .octal => digitCount 8 f.size
  | .hexadecimal => 2 * f.size
  | .unsigned => digitCount 10 f.size
  | .signed => (Nat.toDigits 10 (twoTo (8 * f.size - 1))).length + 1
  | .character | .name => 3

private def padded (fill : Char) (width : Nat) (text : List Char) : List Char :=
  List.replicate (width - text.length) fill ++ text

private def characterText (b : UInt8) : List Char :=
  match [(0, 'z'), (7, 'a'), (8, 'b'), (9, 't'), (10, 'n'), (11, 'v'), (12, 'f'), (13, 'r')].lookup
    b.toNat with
  | some 'z' => ['\\', '0']
  | some c => ['\\', c]
  | none =>
    if 32 ≤ b && b ≤ 126 then [Char.ofNat b.toNat] else padded '0' 3 (Nat.toDigits 8 b.toNat)

/-- The names of the characters that cannot be seen. -/
private def controlNames : List String :=
  ["nul", "soh", "stx", "etx", "eot", "enq", "ack", "bel", "bs", "ht", "nl", "vt", "ff", "cr", "so", "si",
   "dle", "dc1", "dc2", "dc3", "dc4", "nak", "syn", "etb", "can", "em", "sub", "esc", "fs", "gs", "rs", "us",
   "sp"]

private def nameText (b : UInt8) : List Char :=
  let n := b.toNat % 128
  if n = 127 then "del".toList
  else match controlNames[n]? with
    | some name => name.toList
    | none => [Char.ofNat n]

/-- A field: the first of its bytes counts least. -/
private def LineForm.fieldText (f : LineForm) (bytes : List UInt8) : List Char :=
  let n := bytes.foldr (fun b n => n * 256 + b.toNat) 0
  match f.form with
  | .octal => padded '0' f.width (Nat.toDigits 8 n)
  | .hexadecimal => padded '0' f.width (Nat.toDigits 16 n)
  | .unsigned => Nat.toDigits 10 n
  | .signed =>
    let half := twoTo (8 * f.size - 1)
    if half ≤ n then '-' :: Nat.toDigits 10 (2 * half - n) else Nat.toDigits 10 n
  | .character => characterText (bytes.headD 0)
  | .name => nameText (bytes.headD 0)

/-- The fields of a line, in columns of a width. What a column is wider than a field needs is shared out
between the fields of a line. -/
private def LineForm.lineText (f : LineForm) (lineSize columns : Nat) (bytes : List UInt8) : List Char :=
  let fields := lineSize / f.size
  let pad := columns - fields * (f.width + 1)
  let used := (bytes.length + f.size - 1) / f.size
  let shown := (List.range used).flatMap fun i =>
    let extra := pad * (fields - i) / fields - pad * (fields - i - 1) / fields
    padded ' ' (f.width + 1 + extra) (f.fieldText ((bytes.drop (i * f.size)).take f.size))
  if f.showsText then
    let gap := columns - shown.length
    shown ++ List.replicate gap ' ' ++ "  >".toList
      ++ bytes.map (fun b => if 32 ≤ b && b ≤ 126 then Char.ofNat b.toNat else '.') ++ ['<']
  else shown

/-! ### Lines -/

/-- The base of addresses and their least length; `none` for no addresses. -/
private abbrev AddressForm := Option (Nat × Nat)

private def addressText (a : AddressForm) (n : Nat) : List Char :=
  match a with
  | some (base, width) => padded '0' width (Nat.toDigits base n)
  | none => []

/-- The lines of bytes from an address on. Lines that repeat the one before them are left out, with a
mark in place of the first of them. -/
private def dumpLines (forms : List LineForm) (address : AddressForm) (lineSize : Nat) (all : Bool) :
    (fuel at' : Nat) → (before : Option (List UInt8)) → (marked : Bool) → List UInt8 → List (List Char)
  | 0, _, _, _, _ => []
  | _, at', _, _, [] => if address.isSome then [addressText address at'] else []
  | fuel + 1, at', before, marked, bytes =>
    let line := bytes.take lineSize
    let rest := bytes.drop lineSize
    if !all && line.length = lineSize && before = some line then
      (if marked then [] else [['*']])
        ++ dumpLines forms address lineSize all fuel (at' + lineSize) before true rest
    else
      let columns := (forms.map fun f => (f.width + 1) * (lineSize / f.size)).foldl max 0
      let first := addressText address at'
      let gap := List.replicate first.length ' '
      let shown := forms.zipIdx.map fun (f, i) =>
        (if i = 0 then first else gap) ++ f.lineText lineSize columns line
      shown ++ dumpLines forms address lineSize all fuel (at' + line.length) (some line) false rest

/-! ### Options -/

/-- The forms that a text of types stands for. -/
private def formsOf (whole : String) : (fuel : Nat) → List Char → Except String (List LineForm)
  | 0, _ | _, [] => return []
  | fuel + 1, c :: rest => do
    let form : FieldForm ← match c with
      | 'o' => pure .octal
      | 'x' => pure .hexadecimal
      | 'u' => pure .unsigned
      | 'd' => pure .signed
      | 'c' => pure .character
      | 'a' => pure .name
      | _ => throw s!"invalid character '{c}' in type string '{whole}'"
    let (size, rest) ←
      if form = .character || form = .name then pure (1, rest)
      else match rest with
        | 'C' :: rest => pure (1, rest)
        | 'S' :: rest => pure (2, rest)
        | 'I' :: rest => pure (4, rest)
        | 'L' :: rest => pure (8, rest)
        | rest =>
          let digits := rest.takeWhile Char.isDigit
          let n := digitsValue 10 (digits.filterMap asciiDigit?)
          if digits.isEmpty then pure (4, rest)
          else if [1, 2, 4, 8].contains n then pure (n, rest.drop digits.length)
          else throw (s!"invalid type string '{whole}';\nthis system doesn't provide a {n}-byte integral "
            ++ "type")
    let (showsText, rest) := match rest with
      | 'z' :: rest => (true, rest)
      | rest => (false, rest)
    return ⟨form, size, showsText⟩ :: (← formsOf whole fuel rest)

/-- The types that single letters stand for. -/
private def shortTypes : List (String × String) :=
  [("a", "a"), ("b", "o1"), ("c", "c"), ("d", "u2"), ("i", "d4"), ("l", "d8"), ("o", "o2"), ("s", "d2"),
   ("x", "x2")]

private def addressForm? (text : String) : Option AddressForm :=
  match text.toList.head? with
  | some 'o' => some (some (8, 7))
  | some 'd' => some (some (10, 7))
  | some 'x' => some (some (16, 6))
  | some 'n' => some none
  | _ => none

/-- A number that an option needs. -/
private def dumpNumber (g : Given) (option : String) : Except String (Option Nat) :=
  match g.value? option with
  | none => return none
  | some v =>
    match amount? v with
    | some n => return some n
    | none => throw s!"invalid -{option} argument '{v}'"

private def odOptions : List ProgramOption :=
  flags [["a"], ["b"], ["c"], ["d"], ["i"], ["l"], ["o"], ["s"], ["x"], ["v", "output-duplicates"]]
    ++ valued [["A", "address-radix"], ["j", "skip-bytes"], ["N", "read-bytes"], ["t", "format"]]
    ++ optionallyValued [["w", "width"]]

/-- Show bytes as numbers or characters. -/
def od : Program := withOptions "od" 1 odOptions fun st g => do
  let failed (message : String) : Acting Nat := do
    emitText st.err s!"od: {message}\n"
    return 1
  let types := g.options.filterMap fun (name, value) =>
    if name = "t" then value else shortTypes.lookup name
  let settings : Except String (List LineForm × Option Nat × Option Nat) := do
    let forms ← (if types.isEmpty then ["o2"] else types).mapM fun t => formsOf t (t.length + 1) t.toList
    return (forms.flatten, ← dumpNumber g "j", ← dumpNumber g "N")
  let radix := (g.value? "A").getD "o"
  match settings, addressForm? radix with
  | _, none =>
    failed s!"invalid output address radix '{radix}'; it must be one character from [doxn]"
  | .error message, _ => failed message
  | .ok (forms, skipped, limit), some address =>
    let (files, complete) ← readFiles st (missing "od") g.operands
    let bytes := files.flatMap (·.2)
    let skipped := skipped.getD 0
    if bytes.length < skipped then return ← failed "cannot skip past end of combined input"
    let bytes := bytes.drop skipped
    let bytes := (limit.map bytes.take).getD bytes
    let width := if g.has "w" then ((g.value? "w") >>= natOf?).getD 32 else 16
    unless files.isEmpty do
      let lines := dumpLines forms address (max width 1) (g.has "v") (bytes.length + 1) skipped none false
        bytes
      emitText st.out (String.join (lines.map fun l => String.ofList l ++ "\n"))
    return statusOf complete

/-! ### Bytes with few letters -/

/-- A way to write bytes: each letter stands for some bits, and letters come in groups. -/
private structure LetterCode where
  name : String
  letters : List Char
  bits : Nat
  /-- Bytes and letters of a group. -/
  bytesInGroup : Nat
  lettersInGroup : Nat

private def sixBits : LetterCode :=
  ⟨"base64", "ABCDEFGHIJKLMNOPQRSTUVWXYZabcdefghijklmnopqrstuvwxyz0123456789+/".toList, 6, 3, 4⟩

private def fiveBits : LetterCode := ⟨"base32", "ABCDEFGHIJKLMNOPQRSTUVWXYZ234567".toList, 5, 5, 8⟩

/-- The letters for up to one group of bytes, filled up with equals signs. -/
private def LetterCode.encodeGroup (k : LetterCode) (bytes : List UInt8) : List Char :=
  let full := bytes ++ List.replicate (k.bytesInGroup - bytes.length) 0
  let n := full.foldl (fun n b => n * 256 + b.toNat) 0
  let used := (bytes.length * 8 + k.bits - 1) / k.bits
  (List.range k.lettersInGroup).map fun i =>
    if i < used then
      (k.letters[n / twoTo (k.bits * (k.lettersInGroup - 1 - i)) % twoTo k.bits]?).getD '='
    else '='

private def LetterCode.encode (k : LetterCode) : (fuel : Nat) → List UInt8 → List Char
  | 0, _ | _, [] => []
  | fuel + 1, bytes => k.encodeGroup (bytes.take k.bytesInGroup) ++ k.encode fuel (bytes.drop k.bytesInGroup)

/-- The bytes of a group of letters, and whether the group is complete: without the equals signs at its
end, its letters make whole bytes. -/
private def LetterCode.decodeGroup (k : LetterCode) (group : List Char) : List UInt8 × Bool :=
  let digits := (group.takeWhile k.letters.contains).filterMap k.letters.idxOf?
  let count := digits.length * k.bits / 8
  let n := (digits ++ List.replicate (k.lettersInGroup - digits.length) 0).foldl
    (fun n d => n * twoTo k.bits + d) 0
  let bytes := (List.range count).map fun i =>
    UInt8.ofNat (n / twoTo (8 * (k.bytesInGroup - 1 - i)) % 256)
  (bytes, group.length = k.lettersInGroup && (group.drop digits.length).all (· = '=')
    && (count * 8 + k.bits - 1) / k.bits = digits.length && count ≠ 0)

/-- The bytes that letters stand for, up to the first group that is not complete, and whether there is
none. -/
private def LetterCode.decode (k : LetterCode) : (fuel : Nat) → List Char → List UInt8 × Bool
  | 0, _ | _, [] => ([], true)
  | fuel + 1, cs =>
    let (bytes, complete) := k.decodeGroup (cs.take k.lettersInGroup)
    if complete then
      let (more, rest) := k.decode fuel (cs.drop k.lettersInGroup)
      (bytes ++ more, rest)
    else (bytes, false)

/-- Letters in lines of a width; without a width, in one line without an end. -/
private def inLines (width : Nat) : (fuel : Nat) → List Char → List Char
  | 0, _ | _, [] => []
  | fuel + 1, cs => if width = 0 then cs else cs.take width ++ '\n' :: inLines width fuel (cs.drop width)

private def coding (k : LetterCode) : Program := withOptions k.name 1
    (flags [["d", "decode"], ["i", "ignore-garbage"]] ++ valued [["w", "wrap"]]) fun st g => do
  match g.operands, ((g.value? "w").map natOf?).getD (some 76) with
  | _, none =>
    let shown := quotedPhrase ((g.value? "w").getD "")
    emitText st.err s!"{k.name}: invalid wrap size: {shown}\n"
    return 1
  | _ :: extra :: _, _ => extraOperand st k.name extra
  | names, some width =>
    let mut complete := true
    let (files, found) ← readFiles st (missing k.name) names
    for (_, bytes) in files do
      if g.has "d" then
        let cs := (charsOf bytes).filter fun c =>
          c ≠ '\n' && (!g.has "i" || k.letters.contains c || c = '=')
        let (decoded, fine) := k.decode (cs.length + 1) cs
        emit st.out decoded
        unless fine do
          emitText st.err s!"{k.name}: invalid input\n"
          complete := false
      else
        let text := k.encode (bytes.length + 1) bytes
        emitText st.out (String.ofList (inLines width (text.length + 1) text))
    return statusOf (complete && found)

def base64 : Program := coding sixBits

def base32 : Program := coding fiveBits

end StepFlow.Shell

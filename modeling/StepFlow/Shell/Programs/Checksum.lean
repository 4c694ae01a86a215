import StepFlow.Shell.Digest
import StepFlow.Shell.Programs.Options

/-!
# Checksums of files

Programs that show digests and sums of files, and that check files by lists of digests.

## Main definitions

* `digestPrograms` — the programs for digests, by name
* `cksum`, `sum`
-/

namespace StepFlow.Shell

/-! ### Digests -/

/-- A digest that a program shows. -/
private structure ShownDigest where
  program : String
  /-- The name of the digest in lines that begin with it. -/
  label : String
  digest : List UInt8 → List UInt8

private def ShownDigest.text (d : ShownDigest) (bytes : List UInt8) : String :=
  Digest.hexadecimal (d.digest bytes)

/-- The digest and the file that a line of a list names. -/
private def listedFile? (line : String) : Option (String × String) :=
  match line.toList.span Char.isAlphanum with
  | (digest, ' ' :: mark :: name) =>
    if (mark = ' ' || mark = '*') && 8 ≤ digest.length && !name.isEmpty then
      some (String.ofList digest, String.ofList name)
    else none
  | _ => none

/-- What came of checking lists. -/
private structure CheckCount where
  lines : Nat := 0
  malformed : Nat := 0
  unread : Nat := 0
  wrong : Nat := 0

private def checkLine (st : Streams) (d : ShownDigest) (g : Given) (c : CheckCount) (line : List UInt8) :
    Acting CheckCount := do
  match listedFile? (textOf line) with
  | none => return { c with malformed := c.malformed + 1 }
  | some (expected, name) =>
    let c := { c with lines := c.lines + 1 }
    match ← fileOrInput name with
    | .error e =>
      emitText st.err (missing d.program name e ++ "\n")
      unless g.has "status" do emitText st.out s!"{name}: FAILED open or read\n"
      return { c with unread := c.unread + 1 }
    | .ok bytes =>
      let isRight := d.text bytes = expected.map Char.toLower
      unless g.has "status" || (isRight && g.has "quiet") do
        emitText st.out (name ++ if isRight then ": OK\n" else ": FAILED\n")
      return if isRight then c else { c with wrong := c.wrong + 1 }

/-- Check files by a list of digests; whether all is right. -/
private def checkList (st : Streams) (d : ShownDigest) (g : Given) (name : String) (bytes : List UInt8) :
    Acting Bool := do
  let mut c : CheckCount := {}
  for line in linesOf bytes do
    c ← checkLine st d g c line
  let warn (n : Nat) (one many : String) : Acting Unit := do
    unless n = 0 || g.has "status" do
      let text := if n = 1 then one else many
      emitText st.err s!"{d.program}: WARNING: {n} {text}\n"
  if c.lines = 0 then
    let shown := shownName (if name = "-" then "standard input" else name)
    emitText st.err s!"{d.program}: {shown}: no properly formatted checksum lines found\n"
    return false
  warn c.malformed "line is improperly formatted" "lines are improperly formatted"
  warn c.unread "listed file could not be read" "listed files could not be read"
  warn c.wrong "computed checksum did NOT match" "computed checksums did NOT match"
  return c.unread = 0 && c.wrong = 0

private def digestOptions : List ProgramOption :=
  flags [["b", "binary"], ["c", "check"], ["t", "text"], ["tag"], ["quiet"], ["status"], ["strict"],
    ["w", "warn"], ["z", "zero"], ["ignore-missing"]]

private def digestProgram (d : ShownDigest) : Program := withOptions d.program 1 digestOptions fun st g => do
  let (files, found) ← readFiles st (missing d.program) g.operands
  let mut complete := found
  for (name, bytes) in files do
    if g.has "c" then
      unless ← checkList st d g name bytes do complete := false
    else
      let mark := if g.has "b" then "*" else " "
      let line := if g.has "tag" then s!"{d.label} ({name}) = " ++ d.text bytes
        else d.text bytes ++ " " ++ mark ++ name
      emitText st.out (line ++ if g.has "z" then "\x00" else "\n")
  return statusOf complete

/-- The programs for digests. -/
def digestPrograms : Fields Program :=
  [⟨"md5sum", "MD5", Digest.md5⟩, ⟨"sha1sum", "SHA1", Digest.sha1⟩,
   ⟨"sha224sum", "SHA224", Digest.sha2 Digest.sha224⟩, ⟨"sha256sum", "SHA256", Digest.sha2 Digest.sha256⟩,
   ⟨"sha384sum", "SHA384", Digest.sha2 Digest.sha384⟩,
   ⟨"sha512sum", "SHA512", Digest.sha2 Digest.sha512⟩].map fun (d : ShownDigest) =>
    (d.program, digestProgram d)

/-! ### Sums -/

/-- Show a line for each file; the name is left out for the input that no argument names. -/
private def sumLines (st : Streams) (name : String) (g : Given) (line : List UInt8 → String) :
    Acting Nat :=
  forFiles st (missing name) g.operands fun file bytes =>
    emitText st.out (line bytes ++ (if g.operands.isEmpty then "" else " " ++ file) ++ "\n")

def cksum : Program := withOptions "cksum" 1 [] fun st g =>
  sumLines st "cksum" g fun bytes =>
    let sum := Digest.cyclicSum bytes
    s!"{sum} {bytes.length}"

def sum : Program := withOptions "sum" 1 (flags [["r"], ["s", "sysv"]]) fun st g =>
  sumLines st "sum" g fun bytes =>
    if g.last? ["r", "s"] = some "s" then
      let sum := Digest.plainSum bytes
      s!"{sum} {(bytes.length + 511) / 512}"
    else
      let sum := toString (Digest.rotatingSum bytes)
      String.ofList (List.replicate (5 - sum.length) '0') ++ sum ++ " "
        ++ aligned 5 ((bytes.length + 1023) / 1024)

end StepFlow.Shell

import StepFlow.Text.Chars

/-!
# Small and capital letters

The small form of a text, in any script. It has one letter for every letter of the text but for the
dotted capital I, whose dot becomes a mark of its own. A sigma has a form of its own at the end of a
word.

## Main definitions

* `lowered` — a text in small letters
* `raisedAscii` — a text in capital letters, as far as those are ASCII
-/

namespace StepFlow.Text

/-- The capital sigma. -/
def capitalSigma : Char := 'Σ'

/-- The small form of a character, wherever it stands. -/
def lowerChar (c : Char) : List Char :=
  if c.toNat < 0x80 then [c.toLower]
  else if c = 'İ' then ['i', '\u0307']
  else
    let n := c.toNat
    match capitalRuns.find? fun (first, last, step, _) =>
        first ≤ n && n ≤ last && (n - first) % step = 0 with
    | some (_, _, _, distance) => [Char.ofNat (n + distance).toNat]
    | none => [c]

/-- The letter that is nearest, marks passed over, has case. -/
private def nextIsCased (cs : List Char) : Bool :=
  match cs.dropWhile (within caseIgnorableRanges) with
  | c :: _ => within casedRanges c
  | [] => false

/-- The small form of what follows the characters `before`, of which the last comes first. -/
private def lowerFrom (before : List Char) : List Char → List Char
  | [] => []
  | c :: rest =>
    let small :=
      if c = capitalSigma then
        if nextIsCased before && !nextIsCased rest then ['ς'] else ['σ']
      else lowerChar c
    small ++ lowerFrom (c :: before) rest

/-- A text in small letters. -/
def lowered (cs : List Char) : List Char := lowerFrom [] cs

/-- The letters and ligatures beyond ASCII whose capital form is in ASCII. -/
def asciiCapitals : List (Char × String) :=
  [('ß', "SS"), ('ı', "I"), ('ſ', "S"), ('ﬀ', "FF"), ('ﬁ', "FI"), ('ﬂ', "FL"), ('ﬃ', "FFI"),
   ('ﬄ', "FFL"), ('ﬅ', "ST"), ('ﬆ', "ST")]

/-- A text in capital letters, as far as those are ASCII; other characters stay. -/
def raisedAscii (s : String) : String :=
  String.ofList <| s.toList.flatMap fun c =>
    match asciiCapitals.find? (·.1 = c) with
    | some (_, capitals) => capitals.toList
    | none => [c.toUpper]

end StepFlow.Text

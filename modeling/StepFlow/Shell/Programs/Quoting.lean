import StepFlow.Text.Utf8

/-!
# Names in messages

Programs show names in their messages such that a shell reads them as one word again: between single
quotes, with bytes that cannot be shown as numbers. A name that holds a single quote and nothing that
double quotes would change stands between double quotes.

## Main definitions

* `quotedName` — a name between quotes
* `shownName` — a name between quotes if it needs them
* `quotedPhrase` — a text that is no name, between single quotes
-/

namespace StepFlow.Shell

/-- The text of a byte that cannot be shown. -/
private def escapedByte (b : UInt8) : String :=
  match b.toNat with
  | 7 => "\\a"
  | 8 => "\\b"
  | 9 => "\\t"
  | 10 => "\\n"
  | 11 => "\\v"
  | 12 => "\\f"
  | 13 => "\\r"
  | n => "\\" ++ String.ofList ((Nat.toDigits 8 (n + 512)).drop 1)

private def isShown (b : UInt8) : Bool := 32 ≤ b && b ≤ 126

/-- The byte stands for itself between double quotes as well. -/
private def isPlain (b : UInt8) : Bool :=
  let c := Char.ofNat b.toNat
  c.isAlphanum || " '%+,-./:@]_".toList.contains c

/-- The runs of bytes that can be shown, and of those that cannot. -/
private def runs (bytes : List UInt8) : List (List UInt8) :=
  bytes.splitBy fun a b => isShown a = isShown b

private def text (bytes : List UInt8) : String :=
  String.ofList (bytes.map fun b => Char.ofNat b.toNat)

/-- A run of bytes between quotes. -/
private def quotedRun (run : List UInt8) : String :=
  if run.head?.all isShown then
    "'" ++ String.ofList ((text run).toList.flatMap fun c =>
      if c = '\'' then ['\'', '\\', '\'', '\''] else [c]) ++ "'"
  else "$'" ++ String.join (run.map escapedByte) ++ "'"

/-- A name between quotes. -/
def quotedName (name : String) : String :=
  let bytes := Text.Utf8.encode name.toList
  if bytes.contains 39 && bytes.all isPlain then "\"" ++ name ++ "\""
  else if bytes.isEmpty then "''"
  else (if isShown (bytes.headD 32) then "" else "''") ++ String.join ((runs bytes).map quotedRun)

/-- A character that a shell would not take as it is. -/
private def needsQuotes (isFirst isOnly : Bool) (b : UInt8) : Bool :=
  let c := Char.ofNat b.toNat
  if c = '\x7b' || c = '\x7d' then isOnly
  else if c = '#' || c = '~' then isFirst
  else !isShown b || " !\"$&'()*:;<=>?[\\^|\x60".toList.contains c

/-- A name, between quotes if it needs them. -/
def shownName (name : String) : String :=
  let bytes := Text.Utf8.encode name.toList
  let bad := (bytes.zipIdx).any fun (b, i) => needsQuotes (i = 0) (bytes.length = 1) b
  if bad || bytes.isEmpty then quotedName name else name

/-- A text between single quotes, with backslashes before quotes and in place of what cannot be
shown. -/
def quotedPhrase (s : String) : String :=
  "'" ++ String.join ((Text.Utf8.encode s.toList).map fun b =>
    if b = 39 then "\\'" else if b = 92 then "\\\\"
    else if isShown b then text [b] else escapedByte b) ++ "'"

end StepFlow.Shell

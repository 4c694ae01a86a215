/-!
# Base64

Bytes written as letters, digits, `+` and `/`, four characters for three bytes, the last group filled
up with equals signs. The reader passes over all other characters; an equals sign ends the text where
it completes a group of four.
-/

namespace StepFlow.Text.Base64

/-- The six bits of a character. -/
def sextet? (c : Char) : Option Nat :=
  if 'A' ≤ c && c ≤ 'Z' then some (c.toNat - 'A'.toNat)
  else if 'a' ≤ c && c ≤ 'z' then some (c.toNat - 'a'.toNat + 26)
  else if '0' ≤ c && c ≤ '9' then some (c.toNat - '0'.toNat + 52)
  else if c = '+' then some 62
  else if c = '/' then some 63
  else none

/-- The bytes of a text. `place` is the place in the group of four, `left` the sextet before it and
`pads` the number of equals signs since then. -/
private def decodeFrom? : (place left pads : Nat) → List Char → Option (List UInt8)
  | place, _, _, [] => if place = 0 then some [] else none
  | place, left, pads, c :: cs =>
    match sextet? c with
    | some v =>
      let next := decodeFrom? ((place + 1) % 4) v 0 cs
      match place with
      | 0 => next
      | 1 => next.map (UInt8.ofNat (left * 4 + v / 16) :: ·)
      | 2 => next.map (UInt8.ofNat (left % 16 * 16 + v / 4) :: ·)
      | _ => next.map (UInt8.ofNat (left % 4 * 64 + v) :: ·)
    | none =>
      if c = '=' && 2 ≤ place then
        if 4 ≤ place + (pads + 1) then some [] else decodeFrom? place left (pads + 1) cs
      else decodeFrom? place left pads cs

/-- The character of six bits. -/
def sextetChar (n : Nat) : Char :=
  if n < 26 then Char.ofNat ('A'.toNat + n)
  else if n < 52 then Char.ofNat ('a'.toNat + (n - 26))
  else if n < 62 then Char.ofNat ('0'.toNat + (n - 52))
  else if n = 62 then '+' else '/'

/-- The text of bytes. -/
def encode : List UInt8 → List Char
  | [] => []
  | [a] =>
    let n := a.toNat
    [sextetChar (n / 4), sextetChar (n % 4 * 16), '=', '=']
  | [a, b] =>
    let n := a.toNat * 256 + b.toNat
    [sextetChar (n / 1024), sextetChar (n / 16 % 64), sextetChar (n % 16 * 4), '=']
  | a :: b :: c :: rest =>
    let n := (a.toNat * 256 + b.toNat) * 256 + c.toNat
    sextetChar (n / 262144) :: sextetChar (n / 4096 % 64) :: sextetChar (n / 64 % 64)
      :: sextetChar (n % 64) :: encode rest

/-- The bytes that a text denotes. -/
def decode? (cs : List Char) : Option (List UInt8) := decodeFrom? 0 0 0 cs

end StepFlow.Text.Base64

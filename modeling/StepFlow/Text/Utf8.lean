/-!
# UTF-8

Bytes and text. Well-formed UTF-8 (no overlong forms, no surrogates, nothing beyond `U+10FFFF`) is
described once, by `Utf8.classify`, which looks at the beginning of a byte sequence and finds either
a character or a broken piece. `decode?` refuses broken pieces and `decodeLossy` puts the
replacement character in the place of each.

A broken piece is a maximal subpart: the longest beginning of some well-formed sequence, or one byte
when no well-formed sequence begins there.
-/

namespace StepFlow.Text.Utf8

/-- What a non-empty byte sequence begins with. -/
inductive Piece where
  /-- A character and the number of bytes that encode it. -/
  | char (c : Char) (size : Nat)
  /-- A maximal subpart of `size` bytes that encodes nothing. -/
  | broken (size : Nat)
  deriving Repr, DecidableEq

/-- The shape of a multi-byte sequence with a given lead byte: the bits that the lead contributes,
the range of the second byte, and the number of continuation bytes after the second. -/
def leadShape (b : Nat) : Option (Nat × Nat × Nat × Nat) :=
  if 0xc2 ≤ b && b ≤ 0xdf then some (b - 0xc0, 0x80, 0xbf, 0)
  else if b == 0xe0 then some (0, 0xa0, 0xbf, 1)
  else if b == 0xed then some (0x0d, 0x80, 0x9f, 1)
  else if 0xe1 ≤ b && b ≤ 0xef then some (b - 0xe0, 0x80, 0xbf, 1)
  else if b == 0xf0 then some (0, 0x90, 0xbf, 2)
  else if 0xf1 ≤ b && b ≤ 0xf3 then some (b - 0xf0, 0x80, 0xbf, 2)
  else if b == 0xf4 then some (4, 0x80, 0x8f, 2)
  else none

/-- Read `need` further continuation bytes after `size` bytes that contributed the bits `acc`. -/
def continuation (acc size : Nat) : Nat → List UInt8 → Piece
  | 0, _ => .char (Char.ofNat acc) size
  | need + 1, b :: bs =>
    if 0x80 ≤ b.toNat && b.toNat ≤ 0xbf then
      continuation (acc * 64 + (b.toNat - 0x80)) (size + 1) need bs
    else .broken size
  | _ + 1, [] => .broken size

/-- What the bytes `b :: bs` begin with. -/
def classify (b : UInt8) (bs : List UInt8) : Piece :=
  if b.toNat < 0x80 then .char (Char.ofNat b.toNat) 1
  else match leadShape b.toNat, bs with
    | some (acc, low, high, need), b₂ :: bs =>
      if low ≤ b₂.toNat && b₂.toNat ≤ high then
        continuation (acc * 64 + (b₂.toNat - 0x80)) 2 need bs
      else .broken 1
    | _, _ => .broken 1

/-- The bytes as text, with `none` for each broken piece. The number counts bytes of the current
piece still to be passed over. -/
def decodePieces : Nat → List UInt8 → List (Option Char)
  | _, [] => []
  | n + 1, _ :: bs => decodePieces n bs
  | 0, b :: bs =>
    match classify b bs with
    | .char c n => some c :: decodePieces (n - 1) bs
    | .broken n => none :: decodePieces (n - 1) bs

/-- The text that the bytes encode, if they are well-formed. -/
def decode? (bs : List UInt8) : Option (List Char) :=
  (decodePieces 0 bs).mapM id

/-- The text that the bytes encode, with `U+FFFD` for each broken piece. -/
def decodeLossy (bs : List UInt8) : List Char :=
  (decodePieces 0 bs).map (·.getD '\ufffd')

/-- The UTF-8 form of one character. -/
def encodeChar (c : Char) : List UInt8 :=
  let n := c.toNat
  if n < 0x80 then [n.toUInt8]
  else if n < 0x800 then [(0xc0 + n / 64).toUInt8, (0x80 + n % 64).toUInt8]
  else if n < 0x10000 then
    [(0xe0 + n / 4096).toUInt8, (0x80 + n / 64 % 64).toUInt8, (0x80 + n % 64).toUInt8]
  else
    [(0xf0 + n / 262144).toUInt8, (0x80 + n / 4096 % 64).toUInt8, (0x80 + n / 64 % 64).toUInt8,
      (0x80 + n % 64).toUInt8]

/-- The UTF-8 form of a text. -/
def encode (cs : List Char) : List UInt8 :=
  cs.flatMap encodeChar

end StepFlow.Text.Utf8

namespace StepFlow.Text

/-- Every line end written as a line feed: a carriage return, alone or with the line feed after it,
becomes one. -/
def normalizeNewlines : List Char → List Char
  | [] => []
  | '\r' :: '\n' :: cs => '\n' :: normalizeNewlines cs
  | '\r' :: cs => '\n' :: normalizeNewlines cs
  | c :: cs => c :: normalizeNewlines cs

end StepFlow.Text

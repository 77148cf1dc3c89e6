/-!
# UTF-8

`encode` gives the bytes of a text.  `decode?` reads bytes back and refuses anything that is not
UTF-8; `decodeLossy` puts the replacement character for each maximal part that cannot be
continued to a character.
-/

namespace XmlSchema.Text.Utf8

/-- The bytes of one character. -/
def encodeChar (c : Char) : List UInt8 :=
  let n := c.toNat
  if n < 0x80 then [n.toUInt8]
  else if n < 0x800 then [(0xC0 + n / 0x40).toUInt8, (0x80 + n % 0x40).toUInt8]
  else if n < 0x10000 then
    [(0xE0 + n / 0x1000).toUInt8, (0x80 + n / 0x40 % 0x40).toUInt8, (0x80 + n % 0x40).toUInt8]
  else
    [(0xF0 + n / 0x40000).toUInt8, (0x80 + n / 0x1000 % 0x40).toUInt8,
      (0x80 + n / 0x40 % 0x40).toUInt8, (0x80 + n % 0x40).toUInt8]

/-- The bytes of a text. -/
def encode (cs : List Char) : List UInt8 := cs.flatMap encodeChar

/-- What may follow a first byte: the range of the second byte, how many bytes follow, and the
bits that the first byte contributes. -/
structure Lead where
  low : UInt8
  high : UInt8
  more : Nat
  bits : Nat

/-- The meaning of a byte that starts a character of several bytes. -/
def lead? (b : UInt8) : Option Lead :=
  let n := b.toNat
  if 0xC2 ≤ n ∧ n ≤ 0xDF then some ⟨0x80, 0xBF, 1, n - 0xC0⟩
  else if n = 0xE0 then some ⟨0xA0, 0xBF, 2, 0⟩
  else if n = 0xED then some ⟨0x80, 0x9F, 2, 0xD⟩
  else if 0xE1 ≤ n ∧ n ≤ 0xEF then some ⟨0x80, 0xBF, 2, n - 0xE0⟩
  else if n = 0xF0 then some ⟨0x90, 0xBF, 3, 0⟩
  else if 0xF1 ≤ n ∧ n ≤ 0xF3 then some ⟨0x80, 0xBF, 3, n - 0xF0⟩
  else if n = 0xF4 then some ⟨0x80, 0x8F, 3, 4⟩
  else none

/-- Reads the bytes behind a first byte, the next of which lies between `low` and `high`.  Gives
the character, if the bytes complete one, and the bytes behind the part that was read. -/
def continueChar : Nat → UInt8 → UInt8 → Nat → List UInt8 → Option Char × List UInt8
  | 0, _, _, bits, bs => (some (Char.ofNat bits), bs)
  | more + 1, low, high, bits, bs =>
    match bs with
    | b :: rest =>
      if low ≤ b ∧ b ≤ high then continueChar more 0x80 0xBF (bits * 0x40 + b.toNat % 0x40) rest
      else (none, bs)
    | [] => (none, bs)

/-- Reads one character; `none` in the first place for a part that is no character. -/
def nextChar (b : UInt8) (bs : List UInt8) : Option Char × List UInt8 :=
  if b < 0x80 then (some (Char.ofNat b.toNat), bs)
  else
    match lead? b with
    | some l => continueChar l.more l.low l.high l.bits bs
    | none => (none, bs)

/-- The characters of some bytes, `none` for each part that is no character. -/
def chars : Nat → List UInt8 → List (Option Char)
  | 0, _ => []
  | _ + 1, [] => []
  | fuel + 1, b :: bs =>
    let (c, rest) := nextChar b bs
    c :: chars fuel rest

/-- The text that the bytes encode; `none` when they are not UTF-8. -/
def decode? (bs : List UInt8) : Option (List Char) := (chars bs.length bs).mapM id

/-- The text that the bytes encode, with the replacement character where they are not UTF-8. -/
def decodeLossy (bs : List UInt8) : List Char :=
  (chars bs.length bs).map fun c => c.getD (Char.ofNat 0xFFFD)

end XmlSchema.Text.Utf8

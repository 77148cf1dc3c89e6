/-!
# Punycode

A domain name is sent in ASCII.  `Punycode.encode` writes a label of it that has other characters:
the ASCII characters come first, and behind a hyphen stands a number for each of the others, in the
order of their code points.  Walking through all positions of the label again and again, with the
next code point in each round, the number says how many positions are passed before the character is
put in.  `Punycode.decode?` reads a label back.
-/

namespace XmlSchema.Uri

/-- Whether a character is an ASCII character. -/
def isAscii (c : Char) : Bool := c.toNat < 0x80

namespace Punycode

/-! ## Numbers

Numbers are written in base 36, the lowest digit first.  A digit below the threshold of its place is
the last one. -/

/-- The digit with a value. -/
def digitChar (n : Nat) : Char := "abcdefghijklmnopqrstuvwxyz0123456789".toList.getD n 'a'

/-- The value of a digit. -/
def digitValue? (c : Char) : Option Nat :=
  if 'a' ≤ c ∧ c ≤ 'z' then some (c.toNat - 'a'.toNat)
  else if '0' ≤ c ∧ c ≤ '9' then some (c.toNat - '0'.toNat + 26)
  else none

/-- The threshold at a place, which is 36 for the lowest digit, 72 for the next and so on. -/
def threshold (bias place : Nat) : Nat := max 1 (min 26 (place - bias))

theorem one_le_threshold (bias place : Nat) : 1 ≤ threshold bias place := Nat.le_max_left _ _

/-- The digits of a number, from a place on. -/
def digits (bias place n : Nat) : List Char :=
  let t := threshold bias place
  if n < t then [digitChar n]
  else digitChar (t + (n - t) % (36 - t)) :: digits bias (place + 36) ((n - t) / (36 - t))
termination_by n
decreasing_by
  have positive := one_le_threshold bias place
  have := Nat.div_le_self (n - threshold bias place) (36 - threshold bias place)
  omega

/-- The bias that suits numbers of the size `delta`, found by dividing it until it is small. -/
def biasFor (bias delta : Nat) : Nat :=
  if 455 < delta then biasFor (bias + 36) (delta / 35) else bias + 36 * delta / (delta + 38)
termination_by delta
decreasing_by omega

/-- The bias behind a number, when `count` characters are in place.  The first number tends to be
much larger than the others. -/
def adapt (isFirst : Bool) (delta count : Nat) : Nat :=
  let delta := if isFirst then delta / 700 else delta / 2
  biasFor 0 (delta + delta / count)

/-! ## Encoding -/

/-- A label that is being encoded. -/
structure Encoding where
  output : List Char
  /-- The code point of the round. -/
  point : Nat := 0x80
  /-- The positions passed since the last number. -/
  delta : Nat := 0
  bias : Nat := 72
  /-- The number of characters in place. -/
  count : Nat
  isFirst : Bool := true

namespace Encoding

/-- Passes a character of the label in the round of its code point or of another one. -/
def pass (e : Encoding) (c : Char) : Encoding :=
  if c.toNat < e.point then { e with delta := e.delta + 1 }
  else if c.toNat = e.point then
    { e with
      output := e.output ++ digits e.bias 36 e.delta
      delta := 0
      bias := adapt e.isFirst e.delta (e.count + 1)
      count := e.count + 1
      isFirst := false }
  else e

/-- Goes on to the round of a code point and passes the whole label. -/
def round (label : List Char) (e : Encoding) (point : Nat) : Encoding :=
  let e := { e with delta := e.delta + (point - e.point) * (e.count + 1), point }
  let e := label.foldl pass e
  { e with delta := e.delta + 1, point := point + 1 }

end Encoding

/-- A label in ASCII. -/
def encode (label : List Char) : List Char :=
  let ascii := label.filter isAscii
  let points := ((label.filter (!isAscii ·)).map Char.toNat).mergeSort.eraseDups
  let start := if ascii.isEmpty then [] else ascii ++ ['-']
  (points.foldl (Encoding.round label) { output := start, count := ascii.length }).output

/-! ## Decoding -/

/-- A label that is being decoded. -/
structure Decoding where
  output : List Char
  /-- The code point of the round. -/
  point : Nat := 0x80
  /-- The position in the label. -/
  position : Nat := 0
  bias : Nat := 72
  /-- What has been read of the next number, and the weight and the place of its next digit. -/
  number : Nat := 0
  weight : Nat := 1
  place : Nat := 36

/-- Reads a digit; the last one of a number puts a character in. -/
def Decoding.next (d : Decoding) (c : Char) : Option Decoding := do
  let digit ← digitValue? c
  let number := d.number + digit * d.weight
  let t := threshold d.bias d.place
  if t ≤ digit then
    return { d with number, weight := d.weight * (36 - t), place := d.place + 36 }
  else
    let count := d.output.length + 1
    let point := d.point + (d.position + number) / count
    let position := (d.position + number) % count
    if point.isValidChar then
      return {
        output := d.output.insertIdx position (Char.ofNat point)
        point
        position := position + 1
        bias := adapt (d.position = 0) number count }
    else none

/-- The part of a label in front of its last hyphen, and the part behind it.  A hyphen at the start
does not count. -/
def splitHyphen (cs : List Char) : List Char × List Char :=
  match cs.reverse.dropWhile (· != '-') with
  | _ :: ascii =>
    if ascii.isEmpty then ([], cs)
    else (ascii.reverse, (cs.reverse.takeWhile (· != '-')).reverse)
  | [] => ([], cs)

/-- The label that is written in ASCII; `none` when the text is not that of a label. -/
def decode? (cs : List Char) : Option (List Char) := do
  let (ascii, numbers) := splitHyphen cs
  if !ascii.all isAscii then none
  else
    let d ← numbers.foldlM Decoding.next { output := ascii }
    if d.place = 36 then return d.output else none

end Punycode

end XmlSchema.Uri

import XmlSchema.Text.Number
import XmlSchema.Text.Utf8
import XmlSchema.Uri.Domain

/-!
# Hosts of URIs

The host of a special scheme is a domain, an IPv4 address or a bracketed IPv6 address
(`domainHost?`); any other scheme takes its host as it is (`opaqueHost?`).  Percent encoding is
here as well, since hosts are decoded with it.
-/

namespace XmlSchema.Uri

open XmlSchema.Text

/-! ## Percent encoding -/

/-- Control characters, and everything outside ASCII. -/
def isControl (c : Char) : Bool := c.toNat < 0x20 || 0x7F ≤ c.toNat

/-- An upper-case hexadecimal digit. -/
def hexDigit (n : Nat) : Char := "0123456789ABCDEF".toList.getD n '0'

/-- The percent-encoded form of a byte. -/
def encodeByte (b : UInt8) : List Char := ['%', hexDigit (b.toNat / 16), hexDigit (b.toNat % 16)]

/-- The text with the characters that satisfy `p` percent-encoded. -/
def percentEncode (p : Char → Bool) (cs : List Char) : List Char :=
  cs.flatMap fun c => if p c then (Utf8.encodeChar c).flatMap encodeByte else [c]

/-- The bytes of a text in which `%` and two hexadecimal digits stand for a byte. -/
def percentDecode : List Char → List UInt8
  | [] => []
  | '%' :: a :: b :: cs =>
    match digit? 16 a, digit? 16 b with
    | some x, some y => (x * 16 + y).toUInt8 :: percentDecode cs
    | _, _ => Utf8.encodeChar '%' ++ percentDecode (a :: b :: cs)
  | c :: cs => Utf8.encodeChar c ++ percentDecode cs

/-! ## Addresses -/

/-- A part of an IPv4 address: decimal, octal behind `0`, hexadecimal behind `0x`. -/
def addressNumber? (cs : List Char) : Option Nat :=
  let read (radix : Nat) (digits : List Char) : Option Nat :=
    if digits.isEmpty then some 0 else (readNat radix maxWord32 digits).toOption
  match cs with
  | [] => none
  | '0' :: 'x' :: rest => read 16 rest
  | '0' :: 'X' :: rest => read 16 rest
  | '0' :: rest => if rest.isEmpty then some 0 else read 8 rest
  | _ => read 10 cs

/-- The parts of a domain, without the empty part behind a final dot. -/
def domainLabels (cs : List Char) : List (List Char) :=
  let parts := splitOnChar '.' cs
  match parts.getLast? with
  | some [] => if parts.length > 1 then parts.dropLast else parts
  | _ => parts

/-- Whether the last part of a domain looks like a number. -/
def endsInNumber (cs : List Char) : Bool :=
  match (domainLabels cs).getLast? with
  | some last =>
    (!last.isEmpty && last.all isDigit) ||
      (match last with
        | '0' :: x :: rest => (x == 'x' || x == 'X') && rest.all fun c => (digit? 16 c).isSome
        | _ => false)
  | none => false

/-- An IPv4 address in dotted form. -/
def ipv4? (cs : List Char) : Option String := do
  let parts ← (domainLabels cs).mapM addressNumber?
  if parts.length > 4 then none
  else
    let last ← parts.getLast?
    let firsts := parts.dropLast
    if firsts.any (· > 255) || last ≥ Nat.pow 256 (5 - parts.length) then none
    else
      let value := firsts.zipIdx.foldl (fun acc (n, i) => acc + n * Nat.pow 256 (3 - i)) last
      let byte (i : Nat) := toString (value / Nat.pow 256 (3 - i) % 256)
      return ".".intercalate [byte 0, byte 1, byte 2, byte 3]

/-- A group of an IPv6 address. -/
def group? (cs : List Char) : Option Nat :=
  if cs.length > 4 then none else (readNat 16 0xFFFF cs).toOption

/-- The groups written between colons; the last may be an IPv4 address. -/
def groups? (cs : List Char) : Option (List Nat) :=
  if cs.isEmpty then some []
  else
    let parts := splitOnChar ':' cs
    match parts.getLast? with
    | none => some []
    | some last =>
      if last.contains '.' then do
        let numbers := splitOnChar '.' last
        if numbers.length ≠ 4 then none
        else
          let bytes ← numbers.mapM fun n =>
            if n.length > 1 && n.head? == some '0' then none
            else (digits? n).filter (· ≤ 255)
          let first ← parts.dropLast.mapM group?
          match bytes with
          | [a, b, c, d] => return first ++ [a * 256 + b, c * 256 + d]
          | _ => none
      else parts.mapM group?

/-- Splits at the first pair of colons. -/
def splitDoubleColon : List Char → Option (List Char × List Char)
  | [] => none
  | ':' :: ':' :: rest => some ([], rest)
  | c :: cs => (splitDoubleColon cs).map fun (a, b) => (c :: a, b)

/-- The eight groups of an IPv6 address. -/
def ipv6Groups? (cs : List Char) : Option (List Nat) := do
  let groups ← match splitDoubleColon cs with
    | some (left, right) => do
      let left ← groups? left
      let right ← groups? right
      if left.length + right.length > 7 then none
      else some (left ++ List.replicate (8 - left.length - right.length) 0 ++ right)
    | none => groups? cs
  if groups.length = 8 then some groups else none

/-- The lower-case hexadecimal form of a group. -/
def groupText (n : Nat) : String := String.ofList (Nat.toDigits 16 n)

/-- The longest run of zero groups of length two or more: its start and length. -/
def longestZeroRun (groups : List Nat) : Option (Nat × Nat) :=
  let runs := (List.range groups.length).map fun i =>
    (i, ((groups.drop i).takeWhile (· == 0)).length)
  let best := runs.foldl (fun (best : Nat × Nat) run => if best.2 < run.2 then run else best) (0, 0)
  if best.2 ≥ 2 then some best else none

/-- An IPv6 address in its shortest form. -/
def ipv6Text (groups : List Nat) : String :=
  let join (gs : List Nat) : String := ":".intercalate (gs.map groupText)
  match longestZeroRun groups with
  | some (start, length) => join (groups.take start) ++ "::" ++ join (groups.drop (start + length))
  | none => join groups

/-- A bracketed IPv6 address in normal form; `none` also when the closing bracket is missing. -/
def bracketed? (cs : List Char) : Option String :=
  match cs.reverse with
  | ']' :: inner => (ipv6Groups? inner.reverse).map fun groups => "[" ++ ipv6Text groups ++ "]"
  | _ => none

/-! ## Hosts -/

/-- The host of a special scheme in normal form. -/
def domainHost? (cs : List Char) : Option String :=
  match cs with
  | '[' :: rest => bracketed? rest
  | _ => do
    let domain ← asciiDomain? (Utf8.decodeLossy (percentDecode cs))
    if domain.isEmpty then none
    else if endsInNumber domain then ipv4? domain
    else some (String.ofList domain)

/-- The host of any other scheme. -/
def opaqueHost? (cs : List Char) : Option String :=
  match cs with
  | '[' :: rest => bracketed? rest
  | _ =>
    if cs.any forbiddenInHost then none else some (String.ofList (percentEncode isControl cs))

end XmlSchema.Uri

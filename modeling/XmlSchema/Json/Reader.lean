import XmlSchema.Datatype.Binary64
import XmlSchema.Json.Basic
import XmlSchema.Text.Blank

/-!
# Reading JSON

`Json.read?` reads one value from a text that holds nothing else.  Values may be nested 127 deep,
and numbers must fit the 64-bit binary format.
-/

namespace XmlSchema.Json

open XmlSchema.Text

/-- The value of four hexadecimal digits. -/
def fourDigits? (cs : List Char) : Option Nat := do
  let digits ← (cs.take 4).mapM (digit? 16)
  if digits.length = 4 then some (digits.foldl (fun n d => n * 16 + d) 0) else none

/-- The character of a one-letter escape. -/
def escaped? : Char → Option Char
  | '"' => some '"'
  | '\\' => some '\\'
  | '/' => some '/'
  | 'b' => some '\x08'
  | 'f' => some '\x0c'
  | 'n' => some '\n'
  | 'r' => some '\r'
  | 't' => some '\t'
  | _ => none

/-- The character of an escape by number, with the number of characters it takes behind the
letter `u`.  Characters beyond the first plane are written as a pair of surrogates. -/
def unicodeEscape? (cs : List Char) : Option (Char × Nat) := do
  let unit ← fourDigits? cs
  if 0xD800 ≤ unit ∧ unit < 0xDC00 then
    match cs.drop 4 with
    | '\\' :: 'u' :: rest =>
      let low ← fourDigits? rest
      if 0xDC00 ≤ low ∧ low < 0xE000 then
        some (Char.ofNat (0x10000 + (unit - 0xD800) * 0x400 + (low - 0xDC00)), 10)
      else none
    | _ => none
  else if 0xDC00 ≤ unit ∧ unit < 0xE000 then none
  else some (Char.ofNat unit, 4)

/-- Reads a string from behind its opening quote. -/
def readString : Nat → List Char → Option (List Char × List Char)
  | 0, _ => none
  | _, [] => none
  | fuel + 1, c :: cs =>
    if c = '"' then some ([], cs)
    else if c = '\\' then
      match cs with
      | [] => none
      | 'u' :: rest => do
        let (d, length) ← unicodeEscape? rest
        let (text, rest) ← readString fuel (rest.drop length)
        return (d :: text, rest)
      | e :: rest => do
        let d ← escaped? e
        let (text, rest) ← readString fuel rest
        return (d :: text, rest)
    else if c.toNat < 0x20 then none
    else do
      let (text, rest) ← readString fuel cs
      return (c :: text, rest)

/-- The digits of a whole number without superfluous zeros, and what follows. -/
def wholeDigits? (cs : List Char) : Option (List Char × List Char) :=
  match cs.takeWhile isDigit with
  | [] => none
  | ['0'] => some (['0'], cs.drop 1)
  | '0' :: _ => none
  | digits => some (digits, cs.dropWhile isDigit)

/-- The digits behind a point, if there is one, and what follows. -/
def fractionDigits? : List Char → Option (List Char × List Char)
  | '.' :: cs =>
    let digits := cs.takeWhile isDigit
    if digits.isEmpty then none else some (digits, cs.dropWhile isDigit)
  | cs => some ([], cs)

/-- The exponent of a number, if there is one, and what follows. -/
def exponentDigits? : List Char → Option (List Char × List Char)
  | [] => some ([], [])
  | c :: cs =>
    if c = 'e' ∨ c = 'E' then
      let (sign, cs) := match cs with
        | '+' :: rest => (['+'], rest)
        | '-' :: rest => (['-'], rest)
        | _ => ([], cs)
      let digits := cs.takeWhile isDigit
      if digits.isEmpty then none else some (c :: sign ++ digits, cs.dropWhile isDigit)
    else some ([], c :: cs)

/-- An integer, if it has at most 64 bits and is not the negative zero. -/
def integer? (negative : Bool) (digits : List Char) : Option Int :=
  let n := digitsValue digits
  if negative then if 0 < n ∧ n ≤ Nat.pow 2 63 then some (-n) else none
  else if n ≤ maxWord64 then some n
  else none

/-- Reads a number. -/
def readNumber (cs : List Char) : Option (JsonNumber × List Char) := do
  let (negative, unsigned) := match cs with
    | '-' :: rest => (true, rest)
    | _ => (false, cs)
  let (whole, rest) ← wholeDigits? unsigned
  let (fraction, rest) ← fractionDigits? rest
  let (exponent, rest) ← exponentDigits? rest
  let point := if fraction.isEmpty then [] else '.' :: fraction
  let literal := (if negative then ['-'] else []) ++ whole ++ point ++ exponent
  let real : Option (JsonNumber × List Char) :=
    match Binary64.read? literal with
    | some (.finite _) => some (.real (String.ofList literal), rest)
    | _ => none
  if fraction.isEmpty && exponent.isEmpty then
    match integer? negative whole with
    | some n => return (.integer n, rest)
    | none => real
  else real

/-- What follows the white space at the start of a text. -/
def skipSpace (cs : List Char) : List Char := cs.dropWhile isSpace

/-- Reads the items behind an opening bracket, at least one, up to the closing one. -/
def readItems {α : Type} (item : List Char → Option (α × List Char)) (close : Char) :
    Nat → List Char → Option (List α × List Char)
  | 0, _ => none
  | fuel + 1, cs => do
    let (first, rest) ← item cs
    match skipSpace rest with
    | c :: rest =>
      if c = close then return ([first], rest)
      else if c = ',' then
        let (others, rest) ← readItems item close fuel rest
        return (first :: others, rest)
      else none
    | [] => none

/-- Reads what stands between brackets: nothing, or items with commas between them. -/
def readList {α : Type} (item : List Char → Option (α × List Char)) (close : Char)
    (cs : List Char) : Option (List α × List Char) :=
  match skipSpace cs with
  | c :: rest => if c = close then some ([], rest) else readItems item close cs.length cs
  | [] => none

/-- Reads a member of an object; `value` reads its value. -/
def readMember (value : List Char → Option (Json × List Char)) (cs : List Char) :
    Option ((String × Json) × List Char) := do
  match skipSpace cs with
  | '"' :: rest =>
    let (name, rest) ← readString (rest.length + 1) rest
    match skipSpace rest with
    | ':' :: rest =>
      let (j, rest) ← value rest
      return ((String.ofList name, j), rest)
    | _ => none
  | _ => none

/-- Reads a value that may be nested less than `depth` deep. -/
def readValue : Nat → List Char → Option (Json × List Char)
  | 0, _ => none
  | depth + 1, cs =>
    match skipSpace cs with
    | 'n' :: 'u' :: 'l' :: 'l' :: rest => some (.null, rest)
    | 't' :: 'r' :: 'u' :: 'e' :: rest => some (.bool true, rest)
    | 'f' :: 'a' :: 'l' :: 's' :: 'e' :: rest => some (.bool false, rest)
    | '"' :: rest => do
      let (text, rest) ← readString (rest.length + 1) rest
      return (.string (String.ofList text), rest)
    | '[' :: rest =>
      if depth = 0 then none
      else do
        let (items, rest) ← readList (readValue depth) ']' rest
        return (.array items, rest)
    | '\x7b' :: rest =>
      if depth = 0 then none
      else do
        let (members, rest) ← readList (readMember (readValue depth)) '\x7d' rest
        return (.object members, rest)
    | cs => (readNumber cs).map fun (n, rest) => (.number n, rest)

/-- The nesting depth that is refused. -/
def depthLimit : Nat := 128

/-- Reads a text that holds one value. -/
def read? (text : String) : Option Json :=
  match readValue depthLimit text.toList with
  | some (j, rest) => if (skipSpace rest).isEmpty then some j else none
  | none => none

end XmlSchema.Json

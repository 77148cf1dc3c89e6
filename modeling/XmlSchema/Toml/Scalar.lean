import XmlSchema.Text.Number
import XmlSchema.Toml.Basic

/-!
# TOML numbers, truth values and times

`Toml.scalar?` reads a value that is written without quotes or brackets.
-/

namespace XmlSchema.Toml

open XmlSchema.Text

/-- The digits of a number that may have single underscores between them. -/
def plainDigits? (isDigit : Char → Bool) (cs : List Char) : Option (List Char) :=
  let underscoresApart := !cs.isEmpty && cs.head? != some '_' && cs.getLast? != some '_' &&
    (cs.zip cs.tail).all fun (a, b) => a != '_' || b != '_'
  let digits := cs.filter (· != '_')
  if underscoresApart && digits.all isDigit then some digits else none

/-- The digits of a decimal number without superfluous zeros. -/
def decimalDigits? (cs : List Char) : Option (List Char) :=
  match plainDigits? isDigit cs with
  | some ['0'] => if cs = ['0'] then some ['0'] else none
  | some ('0' :: _) => none
  | digits => digits

/-- The text behind an optional sign, and whether the sign is a minus. -/
def splitSign : List Char → Bool × List Char
  | '+' :: cs => (false, cs)
  | '-' :: cs => (true, cs)
  | cs => (false, cs)

/-- A number in a radix that is named by its prefix. -/
def radixNumber? (radix : Nat) (cs : List Char) : Option Int := do
  let digits ← plainDigits? (fun c => (digit? radix c).isSome) cs
  return digits.foldl (fun n c => n * radix + (digit? radix c).getD 0) 0

/-- A whole number. -/
def integer? (cs : List Char) : Option Int :=
  let value := match cs with
    | '0' :: 'x' :: rest => radixNumber? 16 rest
    | '0' :: 'o' :: rest => radixNumber? 8 rest
    | '0' :: 'b' :: rest => radixNumber? 2 rest
    | _ =>
      let (negative, rest) := splitSign cs
      (decimalDigits? rest).map fun digits =>
        if negative then -digitsValue digits else digitsValue digits
  value.filter fun n => -Nat.pow 2 127 ≤ n && n < Nat.pow 2 128

/-- The exponent of a float. -/
def isExponent (cs : List Char) : Bool :=
  match cs with
  | [] => true
  | c :: rest => (c = 'e' || c = 'E') && (plainDigits? isDigit (splitSign rest).2).isSome

/-- Whether a text is a float. -/
def isFloat (cs : List Char) : Bool :=
  let (_, unsigned) := splitSign cs
  if unsigned = ['i', 'n', 'f'] ∨ unsigned = ['n', 'a', 'n'] then true
  else
    let inDigits (c : Char) : Bool := isDigit c || c == '_'
    let rest := unsigned.dropWhile inDigits
    (decimalDigits? (unsigned.takeWhile inDigits)).isSome && match rest with
      | '.' :: fraction =>
        (plainDigits? isDigit (fraction.takeWhile inDigits)).isSome &&
          isExponent (fraction.dropWhile inDigits)
      | [] => false
      | _ => isExponent rest

/-! ## Times -/

/-- A number of the given number of digits between two limits, and what follows. -/
def fixedDigits? (count low high : Nat) (cs : List Char) : Option (Nat × List Char) := do
  let digits := cs.take count
  let n ← digits? digits
  if digits.length = count ∧ low ≤ n ∧ n ≤ high then return (n, cs.drop count) else none

/-- What follows an expected character. -/
def expect? (c : Char) : List Char → Option (List Char)
  | d :: cs => if c = d then some cs else none
  | [] => none

/-- The number of days of a month. -/
def daysInMonth (year month : Nat) : Nat :=
  if month = 2 then
    if year % 4 = 0 ∧ (year % 100 ≠ 0 ∨ year % 400 = 0) then 29 else 28
  else if month ∈ [4, 6, 9, 11] then 30
  else 31

/-- What follows a date. -/
def date? (cs : List Char) : Option (List Char) := do
  let (year, cs) ← fixedDigits? 4 0 9999 cs
  let (month, cs) ← fixedDigits? 2 1 12 (← expect? '-' cs)
  let (_, cs) ← fixedDigits? 2 1 (daysInMonth year month) (← expect? '-' cs)
  return cs

/-- What follows a fraction of a second, if there is one. -/
def fraction? : List Char → Option (List Char)
  | '.' :: cs => if (cs.takeWhile isDigit).isEmpty then none else some (cs.dropWhile isDigit)
  | cs => some cs

/-- What follows a time of the day; the seconds may be missing. -/
def time? (cs : List Char) : Option (List Char) := do
  let (_, cs) ← fixedDigits? 2 0 23 cs
  let (_, cs) ← fixedDigits? 2 0 59 (← expect? ':' cs)
  match cs with
  | ':' :: cs =>
    let (_, cs) ← fixedDigits? 2 0 60 cs
    fraction? cs
  | _ => return cs

/-- What follows a time zone, if there is one. -/
def zone? (cs : List Char) : Option (List Char) :=
  match cs with
  | [] => some []
  | c :: rest =>
    if c = 'Z' ∨ c = 'z' then some rest
    else if c = '+' ∨ c = '-' then do
      let (_, rest) ← fixedDigits? 2 0 23 rest
      let (_, rest) ← fixedDigits? 2 0 59 (← expect? ':' rest)
      return rest
    else none

/-- Whether a text is a date, a time or both, the latter possibly with a time zone. -/
def isDatetime (cs : List Char) : Bool :=
  match date? cs with
  | none => time? cs == some []
  | some [] => true
  | some (c :: rest) =>
    (c = 'T' || c = 't' || c = ' ') && ((time? rest).bind zone?) == some []

/-- The value of a text that is written without quotes or brackets. -/
def scalar? (cs : List Char) : Option Toml :=
  if cs = "true".toList then some (.bool true)
  else if cs = "false".toList then some (.bool false)
  else if isDatetime cs then some (.datetime (String.ofList cs))
  else if isFloat cs then some (.float (String.ofList cs))
  else (integer? cs).map .integer

/-- The characters of values without quotes or brackets. -/
def isScalarChar (c : Char) : Bool := c.isAlphanum || "_+-.:".toList.contains c

/-- Splits a value without quotes or brackets from what follows it.  A date and a time may have a
space between them. -/
def splitScalar (cs : List Char) : List Char × List Char :=
  let first := cs.takeWhile isScalarChar
  let rest := cs.dropWhile isScalarChar
  match rest with
  | ' ' :: d :: more =>
    if date? first == some [] && isDigit d then
      (first ++ ' ' :: (d :: more).takeWhile isScalarChar, (d :: more).dropWhile isScalarChar)
    else (first, rest)
  | _ => (first, rest)

end XmlSchema.Toml

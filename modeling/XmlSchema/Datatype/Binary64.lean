import XmlSchema.Text.Number

/-!
# Binary floating point

The numbers of the 64-bit binary floating point format, as far as comparing them needs.  Every
finite number of the format is a multiple of `2 ^ -1074`, so a finite value is the integer that
counts these units, and comparison is comparison of integers.  `Binary64.read?` reads decimal
notation and rounds to the nearest number of the format, ties to the even one.
-/

namespace XmlSchema

open XmlSchema.Text

/-- A number of the 64-bit binary format; the two zeros are one value. -/
inductive Binary64 where
  | nan
  | negativeInfinity
  /-- The value `units * 2 ^ -1074`. -/
  | finite (units : Int)
  | positiveInfinity
  deriving DecidableEq, Repr

namespace Binary64

/-- The order of the format; nothing compares with `nan`. -/
def compare? : Binary64 → Binary64 → Option Ordering
  | .nan, _ => none
  | _, .nan => none
  | .finite a, .finite b => some (compare a b)
  | .negativeInfinity, .negativeInfinity => some .eq
  | .negativeInfinity, _ => some .lt
  | _, .negativeInfinity => some .gt
  | .positiveInfinity, .positiveInfinity => some .eq
  | .positiveInfinity, _ => some .gt
  | _, .positiveInfinity => some .lt

/-- The integer nearest to `num / den`, the even one of two. -/
def roundDiv (num den : Nat) : Nat :=
  let quotient := num / den
  let twice := 2 * (num % den)
  if twice < den ∨ (twice = den ∧ quotient % 2 = 0) then quotient else quotient + 1

/-- `num / den` units rounded to 53 significant bits. -/
def roundUnits (num den : Nat) : Nat :=
  let quotient := num / den
  let scale := if quotient < Nat.pow 2 53 then 1 else Nat.pow 2 (Nat.log2 quotient - 52)
  roundDiv num (den * scale) * scale

/-- How many units make up `2 ^ 1024`, the first number that is too large. -/
def overflowUnits : Nat := Nat.pow 2 (1024 + 1074)

/-- A finite value or, when it is too large, an infinite one. -/
def ofUnits (negative : Bool) (units : Nat) : Binary64 :=
  if overflowUnits ≤ units then
    if negative then .negativeInfinity else .positiveInfinity
  else .finite (if negative then -units else units)

/-- The number nearest to `± mantissa * 10 ^ exponent`.  Magnitudes far outside the range of the
format are not computed: they are infinite or zero. -/
def ofDecimal (negative : Bool) (mantissa : Nat) (exponent : Int) : Binary64 :=
  let magnitude := (Nat.toDigits 10 mantissa).length + exponent
  if mantissa = 0 ∨ magnitude < -330 then .finite 0
  else if 310 < magnitude then ofUnits negative overflowUnits
  else
    let units := mantissa * Nat.pow 2 1074
    if 0 ≤ exponent then ofUnits negative (roundUnits (units * Nat.pow 10 exponent.toNat) 1)
    else ofUnits negative (roundUnits units (Nat.pow 10 (-exponent).toNat))

/-- A text without its sign, and whether the sign is a minus. -/
def splitSign : List Char → Bool × List Char
  | '-' :: rest => (true, rest)
  | '+' :: rest => (false, rest)
  | cs => (false, cs)

/-- The exponent behind a mantissa: nothing, or a letter `e` with a whole number. -/
def exponent? : List Char → Option Int
  | [] => some 0
  | c :: cs =>
    if c = 'e' ∨ c = 'E' then
      let (negative, digits) := splitSign cs
      (digits? digits).map fun n => if negative then -Int.ofNat n else n
    else none

/-- Reads a number in decimal notation: digits with an optional point and an optional exponent,
or `inf`, `infinity` or `nan` in any case, each with an optional sign. -/
def read? (cs : List Char) : Option Binary64 :=
  let (negative, cs) := splitSign cs
  let word := String.ofList (cs.map Char.toLower)
  if word = "nan" then some .nan
  else if word = "inf" ∨ word = "infinity" then
    some (if negative then .negativeInfinity else .positiveInfinity)
  else
    let whole := cs.takeWhile isDigit
    let rest := cs.dropWhile isDigit
    let (fraction, rest) := match rest with
      | '.' :: rest => (rest.takeWhile isDigit, rest.dropWhile isDigit)
      | _ => ([], rest)
    if whole.isEmpty && fraction.isEmpty then none
    else (exponent? rest).map fun e =>
      ofDecimal negative (digitsValue (whole ++ fraction)) (e - fraction.length)

end Binary64

end XmlSchema

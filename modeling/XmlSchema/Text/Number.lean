/-!
# Numbers in texts

Readers for whole numbers with a fixed range.  `readNat` reads digits in a radix and says why a
text is no number of the range; `nat?` and `int?` read signed decimals and only say whether.
-/

namespace XmlSchema.Text

/-- Why a text is not a number of the wanted range. -/
inductive NumberError where
  | empty
  | invalidDigit
  | tooLarge
  deriving DecidableEq, Repr

/-- The wording of a number error. -/
def NumberError.message : NumberError → String
  | .empty => "cannot parse integer from empty string"
  | .invalidDigit => "invalid digit found in string"
  | .tooLarge => "number too large to fit in target type"

/-- The value of a character as a digit of a radix up to sixteen. -/
def digit? (radix : Nat) (c : Char) : Option Nat :=
  let value :=
    if '0' ≤ c ∧ c ≤ '9' then some (c.toNat - '0'.toNat)
    else if 'a' ≤ c ∧ c ≤ 'f' then some (c.toNat - 'a'.toNat + 10)
    else if 'A' ≤ c ∧ c ≤ 'F' then some (c.toNat - 'A'.toNat + 10)
    else none
  value.filter (· < radix)

/-- Reads on from the value `acc`.  The first character that is no digit, or that takes the value
beyond `limit`, decides the error. -/
def readDigits (radix limit : Nat) : List Char → Nat → Except NumberError Nat
  | [], acc => .ok acc
  | c :: cs, acc =>
    match digit? radix c with
    | none => .error .invalidDigit
    | some d =>
      if acc * radix + d ≤ limit then readDigits radix limit cs (acc * radix + d)
      else .error .tooLarge

/-- Reads an unsigned number of the radix that is at most `limit`. -/
def readNat (radix limit : Nat) (cs : List Char) : Except NumberError Nat :=
  if cs.isEmpty then .error .empty else readDigits radix limit cs 0

/-- An ASCII decimal digit. -/
def isDigit (c : Char) : Bool := '0' ≤ c && c ≤ '9'

/-- The value of a list of decimal digits. -/
def digitsValue (cs : List Char) : Nat :=
  cs.foldl (fun acc c => acc * 10 + (c.toNat - '0'.toNat)) 0

/-- The value of a non-empty list of decimal digits. -/
def digits? (cs : List Char) : Option Nat :=
  if cs.isEmpty || !cs.all isDigit then none else some (digitsValue cs)

/-- A decimal number up to `limit`, with an optional plus sign. -/
def nat? (limit : Nat) (cs : List Char) : Option Nat :=
  let digits := match cs with
    | '+' :: rest => rest
    | _ => cs
  (digits? digits).filter (· ≤ limit)

/-- A decimal number between `low` and `high`, with an optional sign. -/
def int? (low high : Int) (cs : List Char) : Option Int :=
  let value := match cs with
    | '+' :: rest => (digits? rest).map Int.ofNat
    | '-' :: rest => (digits? rest).map fun n => -Int.ofNat n
    | _ => (digits? cs).map Int.ofNat
  value.filter fun v => low ≤ v && v ≤ high

/-- The largest number of 32 bits. -/
def maxWord32 : Nat := 4294967295

/-- The largest number of 64 bits. -/
def maxWord64 : Nat := 18446744073709551615

end XmlSchema.Text

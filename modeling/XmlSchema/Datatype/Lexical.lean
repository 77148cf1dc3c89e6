import XmlSchema.Datatype.Binary64
import XmlSchema.Text.Blank
import XmlSchema.Text.Offset
import XmlSchema.Unicode.Category

/-!
# Lexical forms

Recognisers for the lexical forms of the built-in types.  They work on texts whose white space has
been normalised.
-/

namespace XmlSchema.Lexical

open XmlSchema.Text

/-! ## Numbers -/

/-- A text without one leading sign. -/
def dropSign : List Char → List Char
  | '+' :: rest => rest
  | '-' :: rest => rest
  | cs => cs

/-- One or more digits. -/
def isDigits (cs : List Char) : Bool := !cs.isEmpty && cs.all isDigit

/-- An optional sign with digits. -/
def isInteger (cs : List Char) : Bool := isDigits (dropSign cs)

/-- Digits with an optional point among, before or behind them. -/
def isUnsignedDecimal (cs : List Char) : Bool :=
  let whole := cs.takeWhile isDigit
  match cs.dropWhile isDigit with
  | [] => !whole.isEmpty
  | '.' :: fraction => fraction.all isDigit && !(whole.isEmpty && fraction.isEmpty)
  | _ => false

/-- An optional sign with digits and an optional point. -/
def isDecimal (cs : List Char) : Bool := isUnsignedDecimal (dropSign cs)

/-- A decimal number with an optional exponent. -/
def isScientific (cs : List Char) : Bool :=
  let isMark (c : Char) : Bool := c == 'e' || c == 'E'
  isDecimal (cs.takeWhile (!isMark ·)) &&
    match cs.dropWhile (!isMark ·) with
    | [] => true
    | _ :: exponent => isInteger exponent

/-- The names of the values that are no finite numbers. -/
def isSpecialFloat (cs : List Char) : Bool :=
  ["INF", "-INF", "+INF", "NaN"].any (·.toList == cs)

/-! ## Names -/

/-- The characters that may start a name. -/
def startsName (c : Char) : Bool :=
  c.isAlpha || c == '_' || Unicode.letter.contains c

/-- The characters of names other than the colon and the middle dot. -/
def inName (c : Char) : Bool :=
  c.isAlphanum || c == '_' || c == '.' || c == '-' || Unicode.letter.contains c ||
    Unicode.number.contains c

/-- The middle dot, which most kinds of names may contain. -/
def isMiddleDot (c : Char) : Bool := c.toNat == 0xB7

/-- A first character that satisfies `start`, then characters that satisfy `next`. -/
def isWordOf (start next : Char → Bool) : List Char → Bool
  | [] => false
  | c :: cs => start c && cs.all next

/-- A name without colon. -/
def isNcName (cs : List Char) : Bool := isWordOf startsName (fun c => inName c || isMiddleDot c) cs

/-- A name that may contain colons. -/
def isName (cs : List Char) : Bool :=
  isWordOf (fun c => startsName c || c == ':') (fun c => inName c || c == ':' || isMiddleDot c) cs

/-- One or more characters of names. -/
def isNmToken (cs : List Char) : Bool :=
  !cs.isEmpty && cs.all fun c => inName c || c == ':' || isMiddleDot c

/-- One part of a qualified name. -/
def isQNamePart (cs : List Char) : Bool := isWordOf startsName inName cs

/-- A name with an optional prefix. -/
def isQName (cs : List Char) : Bool :=
  match cs.dropWhile (· != ':') with
  | [] => isQNamePart cs
  | _ :: localPart => isQNamePart (cs.takeWhile (· != ':')) && isQNamePart localPart

/-- The parts of a text between the hyphens. -/
def splitHyphens : List Char → List (List Char)
  | [] => [[]]
  | c :: cs =>
    if c = '-' then [] :: splitHyphens cs
    else
      match splitHyphens cs with
      | part :: parts => (c :: part) :: parts
      | [] => [[c]]

/-- Up to eight characters that satisfy `p`, and at least one. -/
def isTagOf (p : Char → Bool) (cs : List Char) : Bool :=
  !cs.isEmpty && cs.length ≤ 8 && cs.all p

/-- A language tag: letters, then groups of letters and digits. -/
def isLanguage (cs : List Char) : Bool :=
  match splitHyphens cs with
  | [] => false
  | first :: rest => isTagOf Char.isAlpha first && rest.all (isTagOf Char.isAlphanum)

/-! ## Dates and times -/

/-- The value of two digits. -/
def twoDigits? : List Char → Option (Nat × List Char)
  | a :: b :: rest => if isDigit a && isDigit b then some (digitsValue [a, b], rest) else none
  | _ => none

/-- Nothing, or the name of a time zone. -/
def isZone : List Char → Bool
  | [] => true
  | ['Z'] => true
  | [sign, a, b, ':', c, d] =>
    (sign == '+' || sign == '-') && isDigit a && isDigit b && isDigit c && isDigit d
  | _ => false

/-- The digits of a year behind an optional minus sign, at least four, and what follows. -/
def year? (cs : List Char) : Option (List Char × List Char) :=
  let cs := match cs with
    | '-' :: rest => rest
    | _ => cs
  let digits := cs.takeWhile isDigit
  if 4 ≤ digits.length then some (digits, cs.dropWhile isDigit) else none

/-- A month between 1 and 12, and what follows. -/
def month? (cs : List Char) : Option (Nat × List Char) :=
  (twoDigits? cs).filter fun (month, _) => 1 ≤ month && month ≤ 12

/-- A day between 1 and 31, and what follows. -/
def day? (cs : List Char) : Option (Nat × List Char) :=
  (twoDigits? cs).filter fun (day, _) => 1 ≤ day && day ≤ 31

/-- What follows a given character. -/
def after? (c : Char) : List Char → Option (List Char)
  | [] => none
  | d :: rest => if d = c then some rest else none

/-- Leap years of the Gregorian calendar. -/
def isLeapYear (year : Nat) : Bool :=
  (year % 4 == 0 && year % 100 != 0) || year % 400 == 0

/-- The number of days of a month; months that do not exist have none. -/
def daysInMonth (year month : Nat) : Nat :=
  if month ∈ [1, 3, 5, 7, 8, 10, 12] then 31
  else if month ∈ [4, 6, 9, 11] then 30
  else if month = 2 then if isLeapYear year then 29 else 28
  else 0

/-- The greatest year that is understood. -/
def maxYear : Nat := 9223372036854775807

/-- A day that exists in the calendar. -/
def isDay (year month day : Nat) : Bool :=
  year ≤ maxYear && 1 ≤ day && day ≤ daysInMonth year month

/-- A date with an optional time zone. -/
def isDate (cs : List Char) : Bool :=
  let parts := do
    let (year, rest) ← year? cs
    let (month, rest) ← twoDigits? (← after? '-' rest)
    let (day, rest) ← twoDigits? (← after? '-' rest)
    return isDay (digitsValue year) month day && isZone rest
  parts.getD false

/-- Seconds: two digits with an optional fraction, and what follows. -/
def seconds? (cs : List Char) : Option (List Char × List Char) := do
  let (_, rest) ← twoDigits? cs
  match rest with
  | '.' :: fraction =>
    let digits := fraction.takeWhile isDigit
    if digits.isEmpty then none
    else return (cs.take 2 ++ '.' :: digits, fraction.dropWhile isDigit)
  | _ => return (cs.take 2, rest)

/-- A time of day; midnight may be written as 24:00:00.  Seconds are binary numbers, so a
fraction that is closer to the next minute than to any smaller number is the next minute. -/
def isTimeOfDay (hour minute : Nat) (seconds : Binary64) : Bool :=
  if hour = 24 then minute == 0 && seconds == .finite 0
  else hour < 24 && minute < 60 && seconds.compare? (.ofDecimal false 60 0) == some .lt

/-- A time with an optional time zone. -/
def isTime (cs : List Char) : Bool :=
  let parts := do
    let (hour, rest) ← twoDigits? cs
    let (minute, rest) ← twoDigits? (← after? ':' rest)
    let (seconds, rest) ← seconds? (← after? ':' rest)
    return isTimeOfDay hour minute (← Binary64.read? seconds) && isZone rest
  parts.getD false

/-- A date and a time on both sides of the first `T`. -/
def isDateTime (cs : List Char) : Bool :=
  match cs.dropWhile (· != 'T') with
  | _ :: time => isDate (cs.takeWhile (· != 'T')) && isTime time
  | [] => false

/-- A year. -/
def isYear (cs : List Char) : Bool := (year? cs).any fun (_, rest) => isZone rest

/-- A month of a year. -/
def isYearMonth (cs : List Char) : Bool :=
  let parts := do
    let (_, rest) ← year? cs
    let (_, rest) ← month? (← after? '-' rest)
    return isZone rest
  parts.getD false

/-- A month. -/
def isMonth : List Char → Bool
  | '-' :: '-' :: rest => (month? rest).any fun (_, rest) => isZone rest
  | _ => false

/-- A day of any month. -/
def isMonthDay : List Char → Bool
  | '-' :: '-' :: rest =>
    let parts := do
      let (_, rest) ← month? rest
      let (_, rest) ← day? (← after? '-' rest)
      return isZone rest
    parts.getD false
  | _ => false

/-- A day. -/
def isDayOfMonth : List Char → Bool
  | '-' :: '-' :: '-' :: rest => (day? rest).any fun (_, rest) => isZone rest
  | _ => false

/-! ## Durations -/

/-- Drops digits that are followed by the given letter, if they come next. -/
def dropAmount (letter : Char) (cs : List Char) : List Char :=
  match cs.takeWhile isDigit, cs.dropWhile isDigit with
  | _ :: _, c :: rest => if c = letter then rest else cs
  | _, _ => cs

/-- Drops seconds with an optional fraction, if they come next. -/
def dropSeconds (cs : List Char) : List Char :=
  match cs.takeWhile isDigit, cs.dropWhile isDigit with
  | _ :: _, 'S' :: rest => rest
  | _ :: _, '.' :: fraction =>
    match fraction.takeWhile isDigit, fraction.dropWhile isDigit with
    | _ :: _, 'S' :: rest => rest
    | _, _ => cs
  | _, _ => cs

/-- A duration: amounts of years, months and days, then of hours, minutes and seconds. -/
def isDuration (cs : List Char) : Bool :=
  let unsigned := match cs with
    | '-' :: rest => rest
    | _ => cs
  match unsigned with
  | 'P' :: rest =>
    match dropAmount 'D' (dropAmount 'M' (dropAmount 'Y' rest)) with
    | [] => !rest.isEmpty
    | 'T' :: time => !time.isEmpty && (dropSeconds (dropAmount 'M' (dropAmount 'H' time))).isEmpty
    | _ => false
  | _ => false

/-! ## Binary data -/

/-- A hexadecimal digit in any case. -/
def isHexDigit (c : Char) : Bool := (digit? 16 c).isSome

/-- Pairs of hexadecimal digits. -/
def isHexBinary (cs : List Char) : Bool := byteLength cs % 2 == 0 && cs.all isHexDigit

/-- A digit of base 64. -/
def isBase64Digit (c : Char) : Bool := c.isAlphanum || c == '+' || c == '/'

/-- A text without its blank characters. -/
def compact (cs : List Char) : List Char := cs.filter (!isBlank ·)

/-- The padding at the end of a text. -/
def padding (cs : List Char) : Nat := (cs.reverse.takeWhile (· == '=')).length

/-- Groups of four digits of base 64, the last with up to two padding characters. -/
def isBase64 (cs : List Char) : Bool :=
  let cs := compact cs
  cs.length % 4 == 0 && padding cs ≤ 2 && (cs.take (cs.length - padding cs)).all isBase64Digit

end XmlSchema.Lexical

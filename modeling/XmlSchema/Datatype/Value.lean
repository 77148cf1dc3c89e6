import XmlSchema.Datatype.Builtin
import XmlSchema.Datatype.Lexical

/-!
# Values of built-in types

`Builtin.check` decides whether a text is a value of a built-in type, and `Facets.check` whether a
value meets the facets of a restriction.  What is wrong with a value is a `ValueError`.
-/

namespace XmlSchema

open XmlSchema.Text

/-! ## Errors -/

/-- The four facets that bound a value. -/
inductive Bound where
  | minInclusive
  | maxInclusive
  | minExclusive
  | maxExclusive
  deriving DecidableEq, Repr

/-- The name of a bound in messages. -/
def Bound.label : Bound → String
  | .minInclusive => "MinInclusive"
  | .maxInclusive => "MaxInclusive"
  | .minExclusive => "MinExclusive"
  | .maxExclusive => "MaxExclusive"

/-- Whether a value that compares with the bound in the given way meets it. -/
def Bound.admits : Bound → Ordering → Bool
  | .minInclusive, o => o != .lt
  | .maxInclusive, o => o != .gt
  | .minExclusive, o => o == .gt
  | .maxExclusive, o => o == .lt

/-- Why a text is not a value of a type. -/
inductive ValueError where
  | lexical (type : Builtin) (value : String)
  | outOfRange (type : Builtin) (value : String)
  | enumeration
  | pattern
  | length
  | minLength
  | maxLength
  | bound (bound : Bound)
  | totalDigits
  | fractionDigits
  | union (value : String)
  deriving DecidableEq, Repr

/-- The wording of a value error. -/
def ValueError.message : ValueError → String
  | .lexical type value => s!"The string '{value}' is not a valid {type.localName} value."
  | .outOfRange type value =>
    s!"Value '{value}' was either too large or too small for {type.localName}."
  | .enumeration => "The Enumeration constraint failed."
  | .pattern => "The Pattern constraint failed."
  | .length => "The actual length is not equal to the specified length."
  | .minLength => "The actual length is less than the MinLength value."
  | .maxLength => "The actual length is greater than the MaxLength value."
  | .bound b => s!"The {b.label} constraint failed."
  | .totalDigits => "The TotalDigits constraint failed."
  | .fractionDigits => "The FractionDigits constraint failed."
  | .union value =>
    s!"The value '{value}' is not valid according to any of the memberTypes of the union."

/-! ## White space -/

/-- A character with line breaks and tabs turned into spaces. -/
def replaceBreak (c : Char) : Char :=
  if c = '\t' ∨ c = '\n' ∨ c = '\r' then ' ' else c

/-- A text with its white space treated as the mode says. -/
def WhiteSpace.normalize (mode : WhiteSpace) (value : String) : String :=
  match mode with
  | .preserve => value
  | .replace => String.ofList (value.toList.map replaceBreak)
  | .collapse => String.ofList (unwords (words value.toList))

/-! ## Lexical check -/

/-- Whether a text is of the lexical form of a type.  Integer types share one form; their ranges
are a second question. -/
def Builtin.hasForm (b : Builtin) (cs : List Char) : Bool :=
  let isBreak (c : Char) : Bool := c == '\t' || c == '\n' || c == '\r'
  match b with
  | .anySimpleType | .string | .anyUri => true
  | .normalizedString => !cs.any isBreak
  | .token =>
    !cs.any isBreak && cs.head? != some ' ' && cs.getLast? != some ' ' &&
      !(cs.zip cs.tail).contains (' ', ' ')
  | .language => Lexical.isLanguage cs
  | .name => Lexical.isName cs
  | .ncName | .id | .idRef | .entity => Lexical.isNcName cs
  | .nmToken => Lexical.isNmToken cs
  | .idRefs | .entities => !cs.isEmpty && (words cs).all Lexical.isNcName
  | .nmTokens => !cs.isEmpty && (words cs).all Lexical.isNmToken
  | .qName | .notationName => Lexical.isQName cs
  | .boolean => ["true", "false", "1", "0"].any (·.toList == cs)
  | .decimal => Lexical.isDecimal cs
  | .float | .double => Lexical.isScientific cs || Lexical.isSpecialFloat cs
  | .duration => Lexical.isDuration cs
  | .dateTime => Lexical.isDateTime cs
  | .date => Lexical.isDate cs
  | .time => Lexical.isTime cs
  | .gYearMonth => Lexical.isYearMonth cs
  | .gYear => Lexical.isYear cs
  | .gMonthDay => Lexical.isMonthDay cs
  | .gDay => Lexical.isDayOfMonth cs
  | .gMonth => Lexical.isMonth cs
  | .hexBinary => Lexical.isHexBinary cs
  | .base64Binary => Lexical.isBase64 cs
  | .integer | .nonPositiveInteger | .negativeInteger | .long | .int | .short | .byte
  | .nonNegativeInteger | .unsignedLong | .unsignedInt | .unsignedShort | .unsignedByte
  | .positiveInteger => Lexical.isInteger cs

/-- Whether a text of integer form lies in the range of an integer type.  Only the type `integer`
admits numbers of more than 128 bits. -/
def Builtin.inRange (b : Builtin) (cs : List Char) : Bool :=
  match b.integerRange? with
  | none => true
  | some (low, high) =>
    match int? Builtin.minInteger Builtin.maxInteger cs with
    | some n => low ≤ n && n ≤ high
    | none => b = .integer

/-- Checks a text, whose white space has been normalised, against a built-in type. -/
def Builtin.check (b : Builtin) (value : String) : Except ValueError Unit :=
  if !b.hasForm value.toList then .error (.lexical b value)
  else if !b.inRange value.toList then .error (.outOfRange b value)
  else .ok ()

/-! ## Facets -/

/-- What the values of a simple type are, as far as facets are concerned. -/
inductive ValueKind where
  | list
  | atomic (type : Builtin)
  | union
  deriving DecidableEq, Repr

/-- The built-in type behind an atomic kind. -/
def ValueKind.builtin? : ValueKind → Option Builtin
  | .atomic b => some b
  | _ => none

/-- The length of a value: words of a list, octets of binary data, otherwise characters. -/
def valueLength (kind : Option ValueKind) (cs : List Char) : Nat :=
  match kind with
  | some .list => (words cs).length
  | some (.atomic .hexBinary) => byteLength cs / 2
  | some (.atomic .base64Binary) =>
    let digits := Lexical.compact cs
    byteLength digits / 4 * 3 - Lexical.padding digits
  | _ => cs.length

/-- A text as a number to compare with: without blanks around it and plus signs before it. -/
def comparable (value : String) : List Char :=
  (trim value.toList).dropWhile (· == '+')

/-- Compares two numbers: as integers of 128 bits if both are, otherwise as binary floating point
numbers. -/
def compareNumbers (a b : String) : Option Ordering :=
  let a := comparable a
  let b := comparable b
  match int? Builtin.minInteger Builtin.maxInteger a,
      int? Builtin.minInteger Builtin.maxInteger b with
  | some x, some y => some (compare x y)
  | _, _ => do (← Binary64.read? a).compare? (← Binary64.read? b)

/-- Compares a value with a bound; values that are neither numbers nor dates do not compare. -/
def compareValues (atomic : Option Builtin) (value bound : String) : Option Ordering :=
  match atomic with
  | none => none
  | some b =>
    if b.isNumeric then compareNumbers value bound
    else if b.isChronological then some (compare value bound)
    else none

/-- Whether a value is the one that an enumeration lists. -/
def valuesEqual (atomic : Option Builtin) (listed value : String) : Bool :=
  if atomic.any Builtin.isNumeric then compareNumbers listed value == some .eq
  else listed == value

/-- The number of significant digits of a decimal number, and of those behind the point, as words
of 32 bits. -/
def digitCounts (cs : List Char) : UInt32 × UInt32 :=
  let unsigned := cs.dropWhile fun c => c == '+' || c == '-'
  let whole := (unsigned.takeWhile (· != '.')).dropWhile (· == '0')
  let fraction := ((unsigned.dropWhile (· != '.')).drop 1).reverse.dropWhile (· == '0')
  ((max 1 (byteLength whole + byteLength fraction)).toUInt32, (byteLength fraction).toUInt32)

namespace Facets

/-- The bounds among the facets, in the order in which they are checked. -/
def bounds (f : Facets) : List (Bound × String) :=
  (f.minInclusive.map (Bound.minInclusive, ·)).toList ++
    (f.maxInclusive.map (Bound.maxInclusive, ·)).toList ++
    (f.minExclusive.map (Bound.minExclusive, ·)).toList ++
    (f.maxExclusive.map (Bound.maxExclusive, ·)).toList

/-- Checks the enumeration. -/
def checkEnumeration (f : Facets) (atomic : Option Builtin) (value : String) :
    Except ValueError Unit :=
  if f.enumeration.isEmpty || f.enumeration.any (valuesEqual atomic · value) then .ok ()
  else .error .enumeration

/-- Checks the patterns. -/
def checkPatterns (f : Facets) (value : String) : Except ValueError Unit :=
  if f.patterns.isEmpty || f.patterns.any (·.accepts value) then .ok () else .error .pattern

/-- Checks the length facets. -/
def checkLength (f : Facets) (length : Nat) : Except ValueError Unit :=
  if f.length.any (length != ·) then .error .length
  else if f.minLength.any (length < ·) then .error .minLength
  else if f.maxLength.any (length > ·) then .error .maxLength
  else .ok ()

/-- Checks the bounds; a bound that does not compare with the value is met. -/
def checkBounds (f : Facets) (atomic : Option Builtin) (value : String) :
    Except ValueError Unit :=
  match f.bounds.find? fun (bound, limit) =>
      (compareValues atomic value limit).any (!bound.admits ·) with
  | some (bound, _) => .error (.bound bound)
  | none => .ok ()

/-- Checks the digit facets. -/
def checkDigits (f : Facets) (value : String) : Except ValueError Unit :=
  let (total, fraction) := digitCounts value.toList
  if f.totalDigits.any (total.toNat > ·) then .error .totalDigits
  else if f.fractionDigits.any (fraction.toNat > ·) then .error .fractionDigits
  else .ok ()

/-- Checks a value of the given kind against the facets. -/
def check (f : Facets) (kind : Option ValueKind) (value : String) : Except ValueError Unit := do
  let atomic := kind.bind ValueKind.builtin?
  f.checkEnumeration atomic value
  f.checkPatterns value
  f.checkLength (valueLength kind value.toList)
  f.checkBounds atomic value
  f.checkDigits value

end Facets

end XmlSchema

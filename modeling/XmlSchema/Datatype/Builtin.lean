import XmlSchema.Component.Basic

/-!
# Built-in datatypes

The built-in simple types with their names, their white space modes and the classes that decide
how values are measured and compared.
-/

namespace XmlSchema

/-- A built-in simple type. -/
inductive Builtin where
  | anySimpleType
  | string
  | normalizedString
  | token
  | language
  | name
  | ncName
  | id
  | idRef
  | idRefs
  | entity
  | entities
  | nmToken
  | nmTokens
  | boolean
  | decimal
  | integer
  | nonPositiveInteger
  | negativeInteger
  | long
  | int
  | short
  | byte
  | nonNegativeInteger
  | unsignedLong
  | unsignedInt
  | unsignedShort
  | unsignedByte
  | positiveInteger
  | float
  | double
  | duration
  | dateTime
  | time
  | date
  | gYearMonth
  | gYear
  | gMonthDay
  | gDay
  | gMonth
  | hexBinary
  | base64Binary
  | anyUri
  | qName
  | notationName
  deriving DecidableEq, Repr

namespace Builtin

/-- All built-in types. -/
def all : List Builtin :=
  [.anySimpleType, .string, .normalizedString, .token, .language, .name, .ncName, .id, .idRef,
    .idRefs, .entity, .entities, .nmToken, .nmTokens, .boolean, .decimal, .integer,
    .nonPositiveInteger, .negativeInteger, .long, .int, .short, .byte, .nonNegativeInteger,
    .unsignedLong, .unsignedInt, .unsignedShort, .unsignedByte, .positiveInteger, .float, .double,
    .duration, .dateTime, .time, .date, .gYearMonth, .gYear, .gMonthDay, .gDay, .gMonth,
    .hexBinary, .base64Binary, .anyUri, .qName, .notationName]

/-- The local name of a type in the schema namespace. -/
def localName : Builtin → String
  | .anySimpleType => "anySimpleType"
  | .string => "string"
  | .normalizedString => "normalizedString"
  | .token => "token"
  | .language => "language"
  | .name => "Name"
  | .ncName => "NCName"
  | .id => "ID"
  | .idRef => "IDREF"
  | .idRefs => "IDREFS"
  | .entity => "ENTITY"
  | .entities => "ENTITIES"
  | .nmToken => "NMTOKEN"
  | .nmTokens => "NMTOKENS"
  | .boolean => "boolean"
  | .decimal => "decimal"
  | .integer => "integer"
  | .nonPositiveInteger => "nonPositiveInteger"
  | .negativeInteger => "negativeInteger"
  | .long => "long"
  | .int => "int"
  | .short => "short"
  | .byte => "byte"
  | .nonNegativeInteger => "nonNegativeInteger"
  | .unsignedLong => "unsignedLong"
  | .unsignedInt => "unsignedInt"
  | .unsignedShort => "unsignedShort"
  | .unsignedByte => "unsignedByte"
  | .positiveInteger => "positiveInteger"
  | .float => "float"
  | .double => "double"
  | .duration => "duration"
  | .dateTime => "dateTime"
  | .time => "time"
  | .date => "date"
  | .gYearMonth => "gYearMonth"
  | .gYear => "gYear"
  | .gMonthDay => "gMonthDay"
  | .gDay => "gDay"
  | .gMonth => "gMonth"
  | .hexBinary => "hexBinary"
  | .base64Binary => "base64Binary"
  | .anyUri => "anyURI"
  | .qName => "QName"
  | .notationName => "NOTATION"

/-- The type with the given local name. -/
def ofLocalName? (name : String) : Option Builtin := all.find? (·.localName == name)

/-- The qualified name of a type. -/
def qualifiedName (b : Builtin) : QName := .schema b.localName

/-- The form of a type's name in messages. -/
def label (b : Builtin) : String := b.qualifiedName.text

/-- How white space is treated in values of the type. -/
def whiteSpace : Builtin → WhiteSpace
  | .string | .anySimpleType => .preserve
  | .normalizedString => .replace
  | _ => .collapse

/-- The least integer of 128 bits. -/
def minInteger : Int := -170141183460469231731687303715884105728

/-- The greatest integer of 128 bits. -/
def maxInteger : Int := 170141183460469231731687303715884105727

/-- The bounds of an integer type. -/
def integerRange? : Builtin → Option (Int × Int)
  | .integer => some (minInteger, maxInteger)
  | .nonPositiveInteger => some (minInteger, 0)
  | .negativeInteger => some (minInteger, -1)
  | .long => some (-9223372036854775808, 9223372036854775807)
  | .int => some (-2147483648, 2147483647)
  | .short => some (-32768, 32767)
  | .byte => some (-128, 127)
  | .nonNegativeInteger => some (0, maxInteger)
  | .unsignedLong => some (0, 18446744073709551615)
  | .unsignedInt => some (0, 4294967295)
  | .unsignedShort => some (0, 65535)
  | .unsignedByte => some (0, 255)
  | .positiveInteger => some (1, maxInteger)
  | _ => none

/-- Types whose values compare as numbers. -/
def isNumeric (b : Builtin) : Bool :=
  b.integerRange?.isSome || b = .decimal || b = .float || b = .double

/-- Types whose values are dates or times. -/
def isChronological : Builtin → Bool
  | .dateTime | .time | .date | .gYearMonth | .gYear | .gMonthDay | .gDay | .gMonth => true
  | _ => false

/-- Types whose values are lists of words. -/
def isList : Builtin → Bool
  | .idRefs | .entities | .nmTokens => true
  | _ => false

end Builtin

end XmlSchema

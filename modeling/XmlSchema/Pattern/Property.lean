import XmlSchema.Unicode.CaseFolding
import XmlSchema.Unicode.Category
import XmlSchema.Unicode.Property
import XmlSchema.Unicode.Script
import XmlSchema.Unicode.ScriptExtension

/-!
# Named character classes

The classes that a pattern can name: `\d`, `\s` and `\w`, the bracketed ASCII classes such as
`[:alpha:]`, and Unicode properties by name or by name and value.
-/

namespace XmlSchema.Pattern

open XmlSchema.Unicode

/-- A set of characters. -/
abbrev CharClass := Char → Bool

/-- Decimal digits. -/
def digitClass : CharClass := decimalNumber.contains

/-- White space. -/
def spaceClass : CharClass := propertyWhiteSpace.contains

/-- The table of word characters: letters, marks, decimal digits, connectors and joiners. -/
def wordTable : RangeTable := .union
  [propertyAlphabetic, mark, decimalNumber, connectorPunctuation, propertyJoinControl]

/-- Word characters. -/
def wordClass : CharClass := wordTable.contains

/-- Decimal digits of ASCII. -/
def asciiDigitClass : CharClass := fun c => '0' ≤ c && c ≤ '9'

/-- White space of ASCII. -/
def asciiSpaceClass : CharClass := fun c =>
  c == ' ' || (0x09 ≤ c.toNat && c.toNat ≤ 0x0D)

/-- Word characters of ASCII. -/
def asciiWordClass : CharClass := fun c => c.isAlphanum || c == '_'

/-- The bracketed class with the given name. -/
def asciiClass? (name : String) : Option CharClass :=
  match name with
  | "alnum" => some Char.isAlphanum
  | "alpha" => some Char.isAlpha
  | "ascii" => some fun c => c.toNat ≤ 0x7F
  | "blank" => some fun c => c == '\t' || c == ' '
  | "cntrl" => some fun c => c.toNat ≤ 0x1F || c.toNat == 0x7F
  | "digit" => some asciiDigitClass
  | "graph" => some fun c => '!' ≤ c && c ≤ '~'
  | "lower" => some Char.isLower
  | "print" => some fun c => ' ' ≤ c && c ≤ '~'
  | "punct" => some fun c => '!' ≤ c && c ≤ '~' && !c.isAlphanum
  | "space" => some asciiSpaceClass
  | "upper" => some Char.isUpper
  | "word" => some asciiWordClass
  | "xdigit" => some fun c =>
    asciiDigitClass c || ('a' ≤ c && c ≤ 'f') || ('A' ≤ c && c ≤ 'F')
  | _ => none

/-- The normal form of a property name: in lower case, without blanks, hyphens, underscores and a
leading `is`. -/
def normalName (name : List Char) : String :=
  let (shortened, rest) := match name with
    | a :: b :: rest => if a.toLower = 'i' ∧ b.toLower = 's' then (true, rest) else (false, name)
    | _ => (false, name)
  let kept := rest.filterMap fun c =>
    if c = ' ' ∨ c = '_' ∨ c = '-' ∨ c.toNat > 0x7F then none else some c.toLower
  if shortened && kept == ['c'] then "isc" else String.ofList kept

/-- The class that a property name stands for. -/
def namedProperty? (name : List Char) : Option CharClass :=
  let name := normalName name
  let table := if name ∈ ["cf", "sc", "lc"] then category? name
    else (property? name).orElse fun _ => (category? name).orElse fun _ => script? name
  table.map RangeTable.contains

/-- The class that a property name with a value stands for. -/
def valuedProperty? (name value : List Char) : Option CharClass :=
  let value := normalName value
  let table := match normalName name with
    | "gc" | "generalcategory" | "category" => category? value
    | "sc" | "script" => script? value
    | "scx" | "scriptextensions" => scriptExtension? value
    | _ => none
  table.map RangeTable.contains

/-- The characters of which some case variant belongs to the class. -/
def foldCase (p : CharClass) : CharClass := fun c => (caseVariants c).any p

end XmlSchema.Pattern

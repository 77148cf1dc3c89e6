import XmlSchema.Unicode.Composition
import XmlSchema.Unicode.Direction
import XmlSchema.Unicode.DomainMapping
import XmlSchema.Uri.Punycode

/-!
# Domain names

A domain name is a list of labels with dots between them, which may have letters of any script.
`asciiDomain?` gives the form in which it is sent: capital letters and other variants are mapped to
one form, labels that are written in ASCII are read back, each label is checked, and labels with
characters outside ASCII are written in Punycode.
-/

namespace XmlSchema.Uri

open XmlSchema.Unicode

/-- The parts of a text between the occurrences of a character. -/
def splitOnChar (sep : Char) : List Char → List (List Char)
  | [] => [[]]
  | c :: cs =>
    if c = sep then [] :: splitOnChar sep cs
    else
      match splitOnChar sep cs with
      | part :: parts => (c :: part) :: parts
      | [] => [[c]]

/-- Characters that no host contains. -/
def forbiddenInHost (c : Char) : Bool :=
  c.toNat == 0 || "\t\n\r #/:<>?@[\\]^|".toList.contains c

/-- Characters that no domain contains. -/
def forbiddenInDomain (c : Char) : Bool :=
  forbiddenInHost c || c.toNat < 0x20 || c == '%' || c.toNat == 0x7F

/-! ## Labels -/

/-- Whether a label follows the rule for text that runs from right to left: it runs in one
direction, ends in a letter or number of that direction and has digits of one kind only. -/
def hasOneDirection (label : List Char) : Bool :=
  let directions := label.map direction
  let last := directions.reverse.dropWhile (· == .mark) |>.head?
  match directions.head? with
  | none => true
  | some .rightToLeft =>
    !directions.contains .leftToRight &&
      [some .rightToLeft, some .europeanNumber, some .arabicNumber].contains last &&
      !(directions.contains .europeanNumber && directions.contains .arabicNumber)
  | some .leftToRight =>
    !directions.contains .rightToLeft && !directions.contains .arabicNumber &&
      [some .leftToRight, some .europeanNumber].contains last
  | some _ => false

/-- Whether a label has characters that run from right to left. -/
def hasRightToLeft (label : List Char) : Bool :=
  label.any fun c => [.rightToLeft, .arabicNumber].contains (direction c)

/-- The class of the marks that take the vowel from a consonant. -/
def viramaClass : Nat := 9

/-- The character that keeps letters from being joined. -/
def nonJoiner : Char := Char.ofNat 0x200C

/-- The character that joins letters. -/
def joiner : Char := Char.ofNat 0x200D

/-- Whether a character between the texts `before`, given backwards, and `rest` makes a difference:
both joiners do behind a mark that takes a vowel away, and a non-joiner does between letters that
are joined without it. -/
def isVisibleJoiner (before rest : List Char) (c : Char) : Bool :=
  before.head?.any (markClass · == viramaClass) ||
    (c == nonJoiner && (before.dropWhile joiningAcross.contains).head?.any joinsNext &&
      (rest.dropWhile joiningAcross.contains).head?.any joinsPrevious)

/-- Whether each joiner of a text makes a difference; `before` holds the characters in front of the
text, the nearest first. -/
def joinersVisible (before : List Char) : List Char → Bool
  | [] => true
  | c :: cs =>
    (!(c == nonJoiner || c == joiner) || isVisibleJoiner before cs c) &&
      joinersVisible (c :: before) cs

/-- Whether a label may stand in a domain name whose labels all run from left to right. -/
def isLabel (label : List Char) : Bool :=
  !label.any forbiddenInDomain && !label.head?.any mark.contains && joinersVisible [] label

/-! ## Domains -/

/-- What a label in Punycode starts with. -/
def punycodeMark : List Char := "xn--".toList

/-- The longest label in Punycode that is read. -/
def maxPunycodeLength : Nat := 2000

/-- The longest label that is written in Punycode. -/
def maxLabelLength : Nat := 1000

/-- Reads a label in Punycode.  It has a character outside ASCII, and nothing that is mapped. -/
def punycodeLabel? (code : List Char) : Option (List Char) :=
  if maxPunycodeLength < code.length then none
  else
    (Punycode.decode? code).filter fun label =>
      !label.all isAscii && label.all (fun c => domainChar? c == some [c]) &&
        compose label == label && !punycodeMark.isPrefixOf label

/-- The label that a mapped text stands for. -/
def label? (text : List Char) : Option (List Char) :=
  if punycodeMark.isPrefixOf text then punycodeLabel? (text.drop punycodeMark.length)
  else some text

/-- A label in ASCII. -/
def asciiLabel? (label : List Char) : Option (List Char) :=
  if label.all isAscii then some label
  else if maxLabelLength < label.length then none
  else some (punycodeMark ++ Punycode.encode label)

/-- The labels of a domain name in normal form. -/
def domainLabels? (cs : List Char) : Option (List (List Char)) := do
  let mapped ← cs.mapM domainChar?
  let labels ← (splitOnChar '.' (compose mapped.flatten)).mapM label?
  let oneDirection := !labels.any hasRightToLeft || labels.all hasOneDirection
  if labels.all isLabel && oneDirection then return labels else none

/-- A domain name in ASCII; `none` when it may not be one. -/
def asciiDomain? (cs : List Char) : Option (List Char) := do
  let labels ← domainLabels? cs
  return List.intercalate ['.'] (← labels.mapM asciiLabel?)

end XmlSchema.Uri

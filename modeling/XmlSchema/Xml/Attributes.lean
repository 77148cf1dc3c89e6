import XmlSchema.Text.Blank
import XmlSchema.Xml.Event

/-!
# Attribute lists of start tags

`rawAttributes` reads the attribute list of a start tag from the tag's content, the text between
`<` and `>`.  `attributeOffsets` finds where the attributes of a tag start in the document; it
scans the document itself, so that an offset is known also for an attribute list that is not
accepted.  `decodeAttributes` joins the two.
-/

namespace XmlSchema.Xml

open XmlSchema.Text

/-- An attribute as written: its name, the offset of the name in the tag's content, and the text
between the quotes. -/
structure RawAttribute where
  name : List Char
  start : Nat
  value : List Char
  deriving DecidableEq, Repr

/-- Passes over markup space, keeping count of the offset. -/
def skipSpace (offset : Nat) (cs : List Char) : Nat × List Char :=
  (offset + (cs.takeWhile isSpace).length, cs.dropWhile isSpace)

/-- Whether a character ends an attribute name. -/
def endsAttributeName (c : Char) : Bool := c == '=' || isSpace c

/-- Reads the quoted value of an attribute from behind the equals sign; gives the value with the
offset and text behind its closing quote. -/
def readValue (total offset : Nat) (cs : List Char) :
    Except AttributeError (List Char × Nat × List Char) :=
  let (offset, cs) := skipSpace offset cs
  let quoted (quote : Char) (rest : List Char) :=
    let value := rest.takeWhile (· != quote)
    match rest.dropWhile (· != quote) with
    | [] => .error (.unclosedValue total quote)
    | _ :: behind => .ok (value, offset + byteLength value + 2, behind)
  match cs with
  | [] => .error (.expectedValue total)
  | '"' :: rest => quoted '"' rest
  | '\'' :: rest => quoted '\'' rest
  | _ => .error (.unquotedValue offset)

/-- Finds the equals sign behind an attribute name. -/
def readEquals (total offset : Nat) (cs : List Char) :
    Except AttributeError (Nat × List Char) :=
  match skipSpace offset cs with
  | (_, []) => .error (.expectedEquals total)
  | (offset, '=' :: rest) => .ok (offset + 1, rest)
  | (offset, _) => .error (.expectedEquals offset)

/-- Refuses an attribute name that was read before. -/
def checkFresh (seen : List RawAttribute) (name : List Char) (start : Nat) :
    Except AttributeError Unit :=
  match seen.find? (·.name == name) with
  | some previous => .error (.duplicate start previous.start)
  | none => .ok ()

/-- The attributes of a tag's content from `offset` on, after the attributes `seen`: those read
before the first error, and that error. -/
def rawAttributesFrom (total : Nat) :
    Nat → List RawAttribute → Nat → List Char → List RawAttribute × Option AttributeError
  | 0, seen, _, _ => (seen, none)
  | fuel + 1, seen, offset, cs =>
    match skipSpace offset cs with
    | (_, []) => (seen, none)
    | (start, first :: cs) =>
      let name := first :: cs.takeWhile (!endsAttributeName ·)
      let step : Except AttributeError (RawAttribute × Nat × List Char) := do
        let (offset, cs) ←
          readEquals total (start + byteLength name) (cs.dropWhile (!endsAttributeName ·))
        checkFresh seen name start
        let (value, offset, cs) ← readValue total offset cs
        return (⟨name, start, value⟩, offset, cs)
      match step with
      | .error cause => (seen, some cause)
      | .ok (found, offset, cs) => rawAttributesFrom total fuel (seen ++ [found]) offset cs

/-- The name of a tag: its content up to the first markup space. -/
def tagName (content : List Char) : List Char := content.takeWhile (!isSpace ·)

/-- The attributes in the content of a start tag, up to the first error, and that error. -/
def rawAttributes (content : List Char) : List RawAttribute × Option AttributeError :=
  rawAttributesFrom (byteLength content) content.length [] (byteLength (tagName content))
    (content.dropWhile (!isSpace ·))

/-- Whether a character ends the name of a start tag in the document. -/
def endsTagName (c : Char) : Bool := isAsciiBlank c || c == '>' || c == '/'

/-- Passes over the characters that satisfy `p`, keeping count of the offset. -/
def skipWhile (p : Char → Bool) (offset : Nat) (cs : List Char) : Nat × List Char :=
  (offset + byteLength (cs.takeWhile p), cs.dropWhile p)

/-- Passes over a quoted value, if there is one. -/
def skipQuoted (offset : Nat) (cs : List Char) : Nat × List Char :=
  match cs with
  | '"' :: rest =>
    let (offset, rest) := skipWhile (· != '"') (offset + 1) rest
    (offset + 1, rest.drop 1)
  | '\'' :: rest =>
    let (offset, rest) := skipWhile (· != '\'') (offset + 1) rest
    (offset + 1, rest.drop 1)
  | _ => (offset, cs)

/-- Passes over an equals sign, if there is one. -/
def skipEquals (offset : Nat) (cs : List Char) : Nat × List Char :=
  match cs with
  | '=' :: rest => (offset + 1, rest)
  | _ => (offset, cs)

/-- The offsets of the attribute names from `offset` on, up to the end of the tag. -/
def attributeOffsetsFrom : Nat → Nat → List Char → List Nat
  | 0, _, _ => []
  | fuel + 1, offset, cs =>
    let (start, cs) := skipWhile isAsciiBlank offset cs
    match cs with
    | [] => []
    | c :: _ =>
      if c = '>' ∨ c = '/' then []
      else
        let (offset, cs) :=
          skipWhile (fun c => c != '=' && !isAsciiBlank c && c != '>') start cs
        let (offset, cs) := skipWhile isAsciiBlank offset cs
        let (offset, cs) := skipEquals offset cs
        let (offset, cs) := skipWhile isAsciiBlank offset cs
        let (offset, cs) := skipQuoted offset cs
        start :: attributeOffsetsFrom fuel offset cs

/-- The byte offsets of the attribute names of the start tag that begins at byte `tag`. -/
def attributeOffsets (text : List Char) (tag : Nat) : List Nat :=
  let (offset, cs) := dropToBoundary (tag + 1) text
  let (offset, cs) := skipWhile (!endsTagName ·) offset cs
  attributeOffsetsFrom cs.length offset cs

/-- Decodes the values of the attributes from `index` on; `offsetOf` gives the offset of an
attribute by its index.  The error that ended the list is reported behind the attributes. -/
def decodeValues (offsetOf : Nat → Nat) (error : Option AttributeError) :
    Nat → List RawAttribute → Except Fault (List Attribute)
  | index, [] =>
    match error with
    | some cause => .error ⟨.attributeList cause, offsetOf index⟩
    | none => .ok []
  | index, raw :: rest =>
    match Reference.decode raw.value with
    | .error cause => .error ⟨.reference cause, offsetOf index⟩
    | .ok value => do
      let others ← decodeValues offsetOf error (index + 1) rest
      return ⟨String.ofList raw.name, String.ofList value, offsetOf index⟩ :: others

/-- The decoded attributes of the start tag with the given content that begins at byte `tag`.
The first attribute that cannot be read or decoded is the fault, reported at its name. -/
def decodeAttributes (text : List Char) (tag : Nat) (content : List Char) :
    Except Fault (List Attribute) :=
  let offsets := attributeOffsets text tag
  let (raw, error) := rawAttributes content
  decodeValues (fun index => offsets[index]?.getD (tag + 1)) error 0 raw

end XmlSchema.Xml

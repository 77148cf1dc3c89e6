import XmlSchema.Text.Blank
import XmlSchema.Text.Number
import XmlSchema.Text.Offset
import XmlSchema.Text.Utf8
import XmlSchema.Xml.Tree

/-!
# Reading element trees

`readTree` reads a well-formed document with namespaces and internal entities into its element
tree, or says why the text is not one.  Entities are expanded where they are referred to; the
expansion may be nested ten deep and, below the first level, contain 255 references.
-/

namespace XmlSchema.Xml

open XmlSchema.Text

/-! ## Errors -/

/-- Why a text is not a well-formed document. -/
inductive TreeErrorCause where
  | wrongXmlPrefix
  | unexpectedXmlUri
  | unexpectedXmlnsUri
  | xmlnsElementPrefix
  | duplicateNamespace (name : String)
  | unknownNamespace (name : String)
  | unexpectedCloseTag (expected actual : String)
  | unexpectedEntityCloseTag
  | unknownEntity (name : String)
  | malformedReference
  | entityLoop
  | unescapedLess
  | duplicateAttribute (name : String)
  | noRoot
  | unclosedRoot
  | unexpectedDeclaration
  | invalidName
  | nonXmlChar (c : Char)
  | expectedChar (expected actual : Char)
  | expectedKind (expected : String) (actual : Char)
  | expectedText (expected : String)
  | invalidExternalId
  | invalidComment
  | invalidCharacterData
  | unknownToken
  | unexpectedEnd
  deriving DecidableEq, Repr

/-- An error with the byte offset at which it is reported. -/
structure TreeError where
  cause : TreeErrorCause
  offset : Nat
  deriving DecidableEq, Repr

/-- Row and column of a byte offset, both counted from one; rows end at line feeds only. -/
def rowColumn : Nat × Nat → List Char → Nat → Nat × Nat
  | place, [], _ => place
  | (row, column), c :: cs, bytes =>
    if bytes < c.utf8Size then (row, column)
    else if c = '\n' then rowColumn (row + 1, 1) cs (bytes - c.utf8Size)
    else rowColumn (row, column + 1) cs (bytes - c.utf8Size)

/-- A character that cannot be printed, as a quoted escape. -/
def quotedEscape (c : Char) : String :=
  if c.toNat = 0 then "'\\0'"
  else "'\\u\x7b" ++ String.ofList (Nat.toDigits 16 c.toNat) ++ "\x7d'"

/-- The wording of an error in the document `text`. -/
def TreeError.message (text : List Char) (e : TreeError) : String :=
  let (row, column) := rowColumn (1, 1) text e.offset
  let place := s!"{row}:{column}"
  match e.cause with
  | .wrongXmlPrefix => s!"'xml' namespace prefix mapped to wrong URI at {place}"
  | .unexpectedXmlUri => s!"the 'xml' namespace URI is used for not 'xml' prefix at {place}"
  | .unexpectedXmlnsUri => s!"the 'xmlns' URI is used at {place}, but it must not be declared"
  | .xmlnsElementPrefix => s!"the 'xmlns' prefix is used at {place}, but it must not be"
  | .duplicateNamespace name => s!"namespace '{name}' at {place} is already defined"
  | .unknownNamespace name => s!"an unknown namespace prefix '{name}' at {place}"
  | .unexpectedCloseTag expected actual => s!"expected '{expected}' tag, not '{actual}' at {place}"
  | .unexpectedEntityCloseTag => s!"unexpected close tag at {place}"
  | .unknownEntity name => s!"unknown entity reference '{name}' at {place}"
  | .malformedReference => s!"malformed entity reference at {place}"
  | .entityLoop => s!"a possible entity reference loop is detected at {place}"
  | .unescapedLess => s!"unescaped '<' found at {place}"
  | .duplicateAttribute name => s!"attribute '{name}' at {place} is already defined"
  | .noRoot => "the document does not have a root node"
  | .unclosedRoot => "the root node was opened but never closed"
  | .unexpectedDeclaration => s!"unexpected XML declaration at {place}"
  | .invalidName => s!"invalid name token at {place}"
  | .nonXmlChar c => s!"a non-XML character {quotedEscape c} found at {place}"
  | .expectedChar expected actual => s!"expected '{expected}' not '{actual}' at {place}"
  | .expectedKind expected actual => s!"expected {expected} not '{actual}' at {place}"
  | .expectedText expected => s!"expected '{expected}' at {place}"
  | .invalidExternalId => s!"invalid ExternalID at {place}"
  | .invalidComment => s!"comment at {place} contains '--'"
  | .invalidCharacterData => s!"']]>' at {place} is not allowed inside a character data"
  | .unknownToken => s!"unknown token at {place}"
  | .unexpectedEnd => "unexpected end of stream"

/-! ## State -/

/-- A declared entity: its name, its replacement text and the offset of that text. -/
structure Entity where
  name : List Char
  value : List Char
  offset : Nat

/-- An attribute that has been read, before its prefix is resolved. -/
structure PendingAttribute where
  pre : String
  name : String
  value : String
  offset : Nat

/-- A start tag that is being read. -/
structure PendingTag where
  pre : String
  name : String
  offset : Nat

/-- An element whose end tag has not been read; its children are in reverse. -/
structure OpenElement where
  pre : String
  element : Element

/-- What is left of the text that is being read, and what has been read. -/
structure TreeState where
  rest : List Char
  offset : Nat
  entities : List Entity := []
  opened : List OpenElement := []
  root : Option Element := none
  tag : Option PendingTag := none
  attributes : List PendingAttribute := []
  declared : NamespaceScope := []
  /-- How many entities are being expanded, one inside another. -/
  depth : Nat := 0
  /-- How many references the outermost entity has led to. -/
  references : Nat := 0

/-- A reader of parts of a document. -/
abbrev TreeReader := StateT TreeState (Except TreeError)

namespace TreeReader

/-- Reports an error at an offset. -/
def failAt {α : Type} (cause : TreeErrorCause) (offset : Nat) : TreeReader α :=
  throw ⟨cause, offset⟩

/-- Reports an error here. -/
def failHere {α : Type} (cause : TreeErrorCause) : TreeReader α := do
  failAt cause (← get).offset

/-- The offset of what is left. -/
def here : TreeReader Nat := do return (← get).offset

/-- Whether nothing is left. -/
def atEnd : TreeReader Bool := do return (← get).rest.isEmpty

/-- The next character, if any. -/
def peek? : TreeReader (Option Char) := do return (← get).rest.head?

/-- The next character; an error at the end of the text. -/
def peek : TreeReader Char := do
  match ← peek? with
  | some c => return c
  | none => failHere .unexpectedEnd

/-- Passes over the next `n` characters. -/
def skip (n : Nat) : TreeReader Unit :=
  modify fun s =>
    { s with rest := s.rest.drop n, offset := s.offset + byteLength (s.rest.take n) }

/-- Whether the given text comes next. -/
def startsWith (text : String) : TreeReader Bool := do
  return text.toList.isPrefixOf (← get).rest

/-- Passes over the characters that satisfy `p` and gives them. -/
def takeWhile (p : Char → Bool) : TreeReader (List Char) := do
  let s ← get
  let taken := s.rest.takeWhile p
  set { s with rest := s.rest.dropWhile p, offset := s.offset + byteLength taken }
  return taken

/-- Passes over white space. -/
def skipSpaces : TreeReader Unit := do
  let _ ← takeWhile isSpace

/-- The first byte of a character, as a character. -/
def firstByte (c : Char) : Char := Char.ofNat ((Utf8.encodeChar c).headD 0).toNat

/-- Passes over one given character. -/
def expectChar (c : Char) : TreeReader Unit := do
  let actual ← peek
  if actual = c then skip 1 else failHere (.expectedChar c (firstByte actual))

/-- Passes over a given text. -/
def expectText (text : String) : TreeReader Unit := do
  if ← startsWith text then skip text.length else failHere (.expectedText text)

/-- Passes over white space, of which there must be some. -/
def expectSpaces : TreeReader Unit := do
  let c ← peek
  if isSpace c then skipSpaces else failHere (.expectedKind "a whitespace" (firstByte c))

/-- Passes over a quote and gives it. -/
def expectQuote : TreeReader Char := do
  let c ← peek
  if c = '"' ∨ c = '\'' then
    skip 1
    return c
  else failHere (.expectedKind "a quote" (firstByte c))

/-- The characters that a document may contain. -/
def isXmlChar (c : Char) : Bool :=
  if c.toNat < 0x20 then c == '\t' || c == '\n' || c == '\r'
  else c.toNat != 0xFFFE && c.toNat != 0xFFFF

/-- Passes over characters as long as `p` holds of what is left; all of them, and the one behind
them, must be characters of documents. -/
def takeChars (p : List Char → Bool) : Nat → TreeReader (List Char)
  | 0 => return []
  | fuel + 1 => do
    match (← get).rest with
    | [] => return []
    | c :: cs =>
      if !isXmlChar c then failHere (.nonXmlChar c)
      else if p (c :: cs) then
        skip 1
        return c :: (← takeChars p fuel)
      else return []

/-- Passes over characters up to a given text. -/
def takeUntil (text : String) : TreeReader (List Char) := do
  takeChars (fun cs => !text.toList.isPrefixOf cs) ((← get).rest.length + 1)

/-! ## Names -/

/-- The characters that may start a name. -/
def isNameStart (c : Char) : Bool :=
  let n := c.toNat
  c.isAlpha || c == ':' || c == '_' || (0xC0 ≤ n && n ≤ 0xD6) || (0xD8 ≤ n && n ≤ 0xF6) ||
    (0xF8 ≤ n && n ≤ 0x2FF) || (0x370 ≤ n && n ≤ 0x37D) || (0x37F ≤ n && n ≤ 0x1FFF) ||
    (0x200C ≤ n && n ≤ 0x200D) || (0x2070 ≤ n && n ≤ 0x218F) || (0x2C00 ≤ n && n ≤ 0x2FEF) ||
    (0x3001 ≤ n && n ≤ 0xD7FF) || (0xF900 ≤ n && n ≤ 0xFDCF) || (0xFDF0 ≤ n && n ≤ 0xFFFD) ||
    (0x10000 ≤ n && n ≤ 0xEFFFF)

/-- The characters of names. -/
def isNameChar (c : Char) : Bool :=
  let n := c.toNat
  isNameStart c || c.isDigit || c == '-' || c == '.' || n == 0xB7 || (0x300 ≤ n && n ≤ 0x36F) ||
    (0x203F ≤ n && n ≤ 0x2040)

/-- Reads a name. -/
def readName : TreeReader (List Char) := do
  let start ← here
  match ← peek? with
  | some c => if isNameStart c then takeWhile isNameChar else failAt .invalidName start
  | none => failAt .invalidName start

/-- Passes over a name, which may be missing at the end of the text. -/
def skipName : TreeReader Unit := do
  if ← atEnd then return () else
  let _ ← readName

/-- Reads a name with at most one colon: its prefix, empty without colon, and its local part. -/
def readQualifiedName : TreeReader (List Char × List Char) := do
  let start ← here
  let first ← takeWhile fun c => isNameChar c && c != ':'
  let (pre, localPart) ←
    if (← peek?) == some ':' then do
      skip 1
      let second ← takeWhile fun c => isNameChar c && c != ':'
      if (← peek?) == some ':' then failAt .invalidName start else pure (first, second)
    else pure ([], first)
  let startsWell (cs : List Char) : Bool := cs.head?.all isNameStart
  if startsWell pre && startsWell localPart && !localPart.isEmpty then return (pre, localPart)
  else failAt .invalidName start

/-! ## References -/

/-- What a reference stands for. -/
inductive Referent where
  | char (c : Char)
  | entity (name : List Char)

/-- The character that a reference stands for by number. -/
def referencedChar? (radix : Nat) (digits : List Char) : Option Char := do
  let n ← (readNat radix maxWord32 digits).toOption
  let c := if n.isValidChar then Char.ofNat n else Char.ofNat 0xFFFD
  if isXmlChar c then some c else none

/-- The reference in a text that starts with an ampersand, and how many characters it has. -/
def referent? (cs : List Char) : Option (Referent × Nat) :=
  let close (r : Referent) (length : Nat) : Option (Referent × Nat) :=
    if cs[length]? = some ';' then some (r, length + 1) else none
  match cs.drop 1 with
  | '#' :: 'x' :: rest => do
    let digits := rest.takeWhile fun c => (digit? 16 c).isSome
    close (.char (← referencedChar? 16 digits)) (digits.length + 3)
  | '#' :: rest => do
    let digits := rest.takeWhile isDigit
    close (.char (← referencedChar? 10 digits)) (digits.length + 2)
  | rest =>
    if rest.head?.any isNameStart then
      let name := rest.takeWhile isNameChar
      let referent := match String.ofList name with
        | "quot" => .char '"'
        | "amp" => .char '&'
        | "apos" => .char '\''
        | "lt" => .char '<'
        | "gt" => .char '>'
        | _ => .entity name
      close referent (name.length + 1)
    else none

/-- Passes over a reference: the character it stands for, or the entity. -/
def readReference : TreeReader (Char ⊕ Entity) := do
  let s ← get
  match referent? s.rest with
  | none => failHere .malformedReference
  | some (.char c, length) =>
    skip length
    return .inl c
  | some (.entity name, length) =>
    match s.entities.find? (·.name == name) with
    | some entity =>
      skip length
      return .inr entity
    | none => failHere (.unknownEntity (String.ofList name))

/-- Counts the beginning of an expansion. -/
def enterEntity : TreeReader Unit := do
  let s ← get
  if 0 < s.depth ∧ s.references = 255 then failHere .entityLoop
  else if s.depth < 10 then
    set { s with
      depth := s.depth + 1, references := if s.depth = 0 then s.references else s.references + 1 }
  else failHere .entityLoop

/-- Counts the end of an expansion. -/
def leaveEntity : TreeReader Unit :=
  modify fun s =>
    { s with depth := s.depth - 1, references := if s.depth ≤ 1 then 0 else s.references }

/-- Runs a reader on the replacement text of an entity. -/
def inEntity {α : Type} (entity : Entity) (reader : TreeReader α) : TreeReader α := do
  enterEntity
  let outer ← get
  set { outer with rest := entity.value, offset := entity.offset }
  let result ← reader
  modify fun s => { s with rest := outer.rest, offset := outer.offset }
  leaveEntity
  return result

/-! ## Attribute values -/

/-- A character of an attribute value in normal form. -/
def normalizeChar (c : Char) : Char :=
  if c = '\n' ∨ c = '\r' ∨ c = '\t' then ' ' else c

/-- Reads the rest of an attribute value in normal form; `expand` reads an entity. -/
def normalizeWith (expand : Entity → TreeReader (List Char)) : Nat → TreeReader (List Char)
  | 0 => return []
  | fuel + 1 => do
    match (← get).rest with
    | [] => return []
    | '&' :: _ =>
      let part ← match ← readReference with
        | .inl c => pure [if 0 < (← get).depth then normalizeChar c else c]
        | .inr entity => expand entity
      return part ++ (← normalizeWith expand fuel)
    | c :: cs =>
      skip 1
      if c = '\r' ∧ cs.head? = some '\n' then normalizeWith expand fuel
      else return normalizeChar c :: (← normalizeWith expand fuel)

/-- The replacement of an entity in an attribute value, entities nested `levels` deep. -/
def expandInValue : Nat → Entity → TreeReader (List Char)
  | 0, _ => failHere .entityLoop
  | levels + 1, entity =>
    inEntity entity (normalizeWith (expandInValue levels) (entity.value.length + 1))

/-- The normal form of an attribute value that starts at `offset`. -/
def normalizeValue (value : List Char) (offset : Nat) : TreeReader String := do
  let outer ← get
  set { outer with rest := value, offset }
  let result ← normalizeWith (expandInValue 11) (value.length + 1)
  modify fun s => { s with rest := outer.rest, offset := outer.offset }
  return String.ofList result

/-! ## Tags -/

/-- The namespace of the prefix `xmlns`. -/
def xmlnsNamespace : String := "http://www.w3.org/2000/xmlns/"

/-- Takes in an attribute, which may declare a namespace. -/
def processAttribute (pre name : String) (value : String) (offset : Nat) : TreeReader Unit := do
  if pre = "xmlns" then
    if value = xmlnsNamespace then failAt .unexpectedXmlnsUri offset
    else if name = "xml" ∧ value ≠ xmlNamespace then failAt .wrongXmlPrefix offset
    else if name ≠ "xml" ∧ value = xmlNamespace then failAt .unexpectedXmlUri offset
    else if (← get).declared.any (·.1 == some name) then
      failAt (.duplicateNamespace name) offset
    else if value ≠ xmlNamespace then
      modify fun s => { s with declared := s.declared ++ [(some name, value)] }
  else if name = "xmlns" then
    if value = xmlNamespace then failAt .unexpectedXmlUri offset
    else if value = xmlnsNamespace then failAt .unexpectedXmlnsUri offset
    else modify fun s => { s with declared := s.declared ++ [(none, value)] }
  else
    modify fun s => { s with attributes := s.attributes ++ [⟨pre, name, value, offset⟩] }

/-- The namespaces in scope at the element that is being read. -/
def currentScope : TreeReader NamespaceScope := do
  let s ← get
  match s.opened.head? with
  | none => return s.declared
  | some parent =>
    if s.declared.isEmpty then return parent.element.scope
    else
      let inherited := parent.element.scope.filter fun entry =>
        !s.declared.any (·.1 == entry.1)
      return s.declared ++ inherited

/-- The namespace of a prefix; an empty prefix without declaration means no namespace. -/
def resolvePrefix (scope : NamespaceScope) (pre : String) (offset : Nat) :
    TreeReader String := do
  let key := if pre.isEmpty then none else some pre
  match scope.find? (·.1 == key) with
  | some entry => return entry.2
  | none => if pre.isEmpty then return "" else failAt (.unknownNamespace pre) offset

/-- Resolves the prefixes of attributes and refuses equal names. -/
def resolveAttributes (scope : NamespaceScope) :
    List (QName × String) → List PendingAttribute → TreeReader (List (QName × String))
  | done, [] => return done
  | done, a :: rest => do
    let namespaceName ←
      if a.pre = "xml" then pure xmlNamespace
      else if a.pre.isEmpty then pure ""
      else resolvePrefix scope a.pre a.offset
    let name : QName := ⟨namespaceName, a.name⟩
    if done.any (·.1 == name) then failAt (.duplicateAttribute a.name) a.offset
    else resolveAttributes scope (done ++ [(name, a.value)]) rest

/-- Adds a finished element to the innermost open one, or makes it the root. -/
def appendElement (e : Element) : TreeReader Unit :=
  modify fun s =>
    match s.opened with
    | [] => { s with root := some (s.root.getD e) }
    | parent :: rest =>
      let element := { parent.element with children := e :: parent.element.children }
      { s with opened := { parent with element } :: rest }

/-- Takes in the end of a start tag. -/
def finishTag (isEmpty : Bool) : TreeReader Unit := do
  match (← get).tag with
  | none => return ()
  | some tag =>
    let scope ← currentScope
    let attributes ← resolveAttributes scope [] (← get).attributes
    let namespaceName ← resolvePrefix scope tag.pre (tag.offset + 1)
    let element : Element := ⟨⟨namespaceName, tag.name⟩, attributes, scope, [], []⟩
    modify fun s => { s with attributes := [], declared := [] }
    if isEmpty then appendElement element
    else modify fun s => { s with opened := ⟨tag.pre, element⟩ :: s.opened }

/-- A prefix and a local name as they are written. -/
def rawName (pre name : String) : String := if pre.isEmpty then name else pre ++ ":" ++ name

/-- Takes in an end tag that starts at `offset`. -/
def processEndTag (pre name : String) (offset : Nat) : TreeReader Unit := do
  let s ← get
  if s.tag.isNone then failAt .unexpectedEntityCloseTag offset
  else
    match s.opened with
    | [] => failAt .unknownToken offset
    | innermost :: rest =>
      let e := innermost.element
      if pre ≠ innermost.pre ∨ name ≠ e.name.localName then
        failAt (.unexpectedCloseTag (rawName innermost.pre e.name.localName) (rawName pre name))
          offset
      else
        set { s with opened := rest }
        appendElement { e with children := e.children.reverse }

/-- Reads one attribute: name, equals sign and quoted value. -/
def readAttribute : TreeReader (String × String × List Char × Nat) := do
  let (pre, name) ← readQualifiedName
  skipSpaces
  expectChar '='
  skipSpaces
  let quote ← expectQuote
  let start ← here
  let value ← takeChars (fun cs => cs.head? != some quote && cs.head? != some '<')
    ((← get).rest.length + 1)
  expectChar quote
  return (String.ofList pre, String.ofList name, value, start)

/-- Reads the attributes and the end of a start tag.  Gives whether the element has content. -/
def readTagRest : Nat → TreeReader Bool
  | 0 => return false
  | fuel + 1 => do
    if ← atEnd then return false
    else
      let spaced := (← peek?).any isSpace
      skipSpaces
      let start ← here
      match ← peek with
      | '/' =>
        skip 1
        expectChar '>'
        finishTag true
        return false
      | '>' =>
        skip 1
        finishTag false
        return true
      | c =>
        if !spaced then failHere (.expectedKind "a whitespace" (firstByte c))
        else
          let (pre, name, value, valueStart) ← readAttribute
          processAttribute pre name (← normalizeValue value valueStart) start
          readTagRest fuel

/-- Reads a start tag.  Gives whether the element has content. -/
def readStartTag : TreeReader Bool := do
  let start ← here
  skip 1
  let (pre, name) ← readQualifiedName
  if String.ofList pre = "xmlns" then failAt .xmlnsElementPrefix (start + 1)
  else
    modify fun s => { s with tag := some ⟨String.ofList pre, String.ofList name, start⟩ }
    readTagRest ((← get).rest.length + 1)

/-- Reads an end tag. -/
def readEndTag : TreeReader Unit := do
  let start ← here
  skip 2
  let (pre, name) ← readQualifiedName
  skipSpaces
  expectChar '>'
  processEndTag (String.ofList pre) (String.ofList name) start

/-! ## Other constructs -/

/-- Whether a text occurs in another. -/
def containsText (part : List Char) : List Char → Bool
  | [] => part.isEmpty
  | c :: cs => part.isPrefixOf (c :: cs) || containsText part cs

/-- Passes over a comment. -/
def skipComment : TreeReader Unit := do
  let start ← here
  skip 4
  let text ← takeUntil "-->"
  expectText "-->"
  if containsText ['-', '-'] text || text.getLast? == some '-' then
    failAt .invalidComment start

/-- Passes over a processing instruction. -/
def skipInstruction : TreeReader Unit := do
  if ← startsWith "<?xml " then failHere .unexpectedDeclaration
  else
    skip 2
    let _ ← readName
    skipSpaces
    let _ ← takeUntil "?>"
    expectText "?>"

/-- Passes over comments, processing instructions and white space. -/
def skipMisc : Nat → TreeReader Unit
  | 0 => return ()
  | fuel + 1 => do
    skipSpaces
    if ← startsWith "<!--" then
      skipComment
      skipMisc fuel
    else if ← startsWith "<?" then
      skipInstruction
      skipMisc fuel

/-- Passes over the space that must stand between the parts of the declaration. -/
def declarationSpace : TreeReader Unit := do
  match ← peek? with
  | none => return ()
  | some c =>
    if isSpace c then skipSpaces
    else if ← startsWith "?>" then return ()
    else failHere (.expectedKind "a whitespace" (firstByte c))

/-- Passes over the XML declaration. -/
def skipDeclaration : TreeReader Unit := do
  skip 5
  declarationSpace
  if !(← startsWith "version") then expectText "version"
  let _ ← readAttribute
  declarationSpace
  if ← startsWith "encoding" then
    let _ ← readAttribute
    declarationSpace
  if ← startsWith "standalone" then
    let _ ← readAttribute
  skipSpaces
  expectText "?>"

/-! ## Document types -/

/-- Passes over a quoted literal. -/
def skipLiteral : TreeReader Unit := do
  let quote ← expectQuote
  let _ ← takeWhile (· != quote)
  expectChar quote

/-- Passes over an external identifier, if there is one. -/
def skipExternalId : TreeReader Bool := do
  if ← startsWith "SYSTEM" then
    skip 6
    expectSpaces
    skipLiteral
    return true
  else if ← startsWith "PUBLIC" then
    skip 6
    expectSpaces
    skipLiteral
    expectSpaces
    skipLiteral
    return true
  else return false

/-- Reads the definition of an entity: its replacement text, unless it is external. -/
def readEntityValue (general : Bool) : TreeReader (Option (List Char × Nat)) := do
  let c ← peek
  if c = '"' ∨ c = '\'' then
    let quote ← expectQuote
    let start ← here
    let value ← takeWhile (· != quote)
    expectChar quote
    return some (value, start)
  else if c = 'S' ∨ c = 'P' then
    if ← skipExternalId then
      if general then
        skipSpaces
        if ← startsWith "NDATA" then
          skip 5
          expectSpaces
          skipName
      return none
    else failHere .invalidExternalId
  else failHere (.expectedKind "a quote, SYSTEM or PUBLIC" (firstByte c))

/-- Reads the declaration of an entity. -/
def readEntity : TreeReader Unit := do
  skip 8
  expectSpaces
  let general := (← peek?) != some '%'
  if !general then
    skip 1
    expectSpaces
  let name ← readName
  expectSpaces
  match ← readEntityValue general with
  | some (value, offset) =>
    modify fun s => { s with entities := s.entities ++ [⟨name, value, offset⟩] }
  | none => pure ()
  skipSpaces
  expectChar '>'

/-- Reads the declarations between the brackets of a document type that starts at `start`. -/
def readSubset (start : Nat) : Nat → TreeReader Unit
  | 0 => return ()
  | fuel + 1 => do
    if ← atEnd then return ()
    else
      skipSpaces
      if ← startsWith "<!ENTITY" then
        readEntity
        readSubset start fuel
      else if ← startsWith "<!--" then
        skipComment
        readSubset start fuel
      else if ← startsWith "<?" then
        skipInstruction
        readSubset start fuel
      else if ← startsWith "]" then
        skip 1
        skipSpaces
        let c ← peek
        if c = '>' then skip 1 else failHere (.expectedKind "'>'" (firstByte c))
      else if (← startsWith "<!ELEMENT") || (← startsWith "<!ATTLIST")
          || (← startsWith "<!NOTATION") then
        let _ ← takeWhile (· != '>')
        if ← atEnd then failAt .unknownToken start
        else
          skip 1
          readSubset start fuel
      else failHere .unknownToken

/-- Reads a document type declaration. -/
def readDoctype : TreeReader Unit := do
  let start ← here
  skip 9
  expectSpaces
  skipName
  skipSpaces
  let _ ← skipExternalId
  skipSpaces
  let c ← peek
  if c = '>' then skip 1
  else if c = '[' then
    skip 1
    readSubset start ((← get).rest.length + 1)
  else failHere (.expectedKind "'[' or '>'" (firstByte c))

/-! ## Content -/

/-- Reads the references of a text up to its end; `expand` reads an entity. -/
def readTextWith (expand : Entity → TreeReader Unit) : Nat → TreeReader Unit
  | 0 => return ()
  | fuel + 1 => do
    match (← get).rest with
    | [] => return ()
    | '&' :: _ =>
      match ← readReference with
      | .inl _ => readTextWith expand fuel
      | .inr entity =>
        expand entity
        readTextWith expand fuel
    | _ =>
      skip 1
      readTextWith expand fuel

/-- Reads a text up to the next markup. -/
def readTextBlock (expand : Entity → TreeReader Unit) : TreeReader Unit := do
  let start ← here
  let text ← takeChars (·.head? != some '<') ((← get).rest.length + 1)
  if containsText [']', ']', '>'] text then failHere .invalidCharacterData
  else
    let outer ← get
    set { outer with rest := text, offset := start }
    readTextWith expand (text.length + 1)
    modify fun s => { s with rest := outer.rest, offset := outer.offset }

/-- Reads content until the element in which it started is closed; `level` counts the elements
opened since. -/
def readContentWith (expand : Entity → TreeReader Unit) : Nat → Nat → TreeReader Unit
  | 0, _ => return ()
  | fuel + 1, level => do
    match (← get).rest with
    | [] => return ()
    | ['<'] => failHere .unknownToken
    | '<' :: '!' :: _ =>
      if ← startsWith "<!--" then
        skipComment
        readContentWith expand fuel level
      else if ← startsWith "<![CDATA[" then
        skip 9
        let _ ← takeUntil "]]>"
        expectText "]]>"
        readContentWith expand fuel level
      else failHere .unknownToken
    | '<' :: '?' :: _ =>
      skipInstruction
      readContentWith expand fuel level
    | '<' :: '/' :: _ =>
      readEndTag
      match level with
      | 0 => return ()
      | level + 1 => readContentWith expand fuel level
    | '<' :: _ =>
      if ← readStartTag then readContentWith expand fuel (level + 1)
      else readContentWith expand fuel level
    | _ =>
      readTextBlock expand
      readContentWith expand fuel level

/-- Reads the content that an entity stands for, entities nested `levels` deep. -/
def expandInContent : Nat → Entity → TreeReader Unit
  | 0, _ => failHere .entityLoop
  | levels + 1, entity => do
    let tag := (← get).tag
    inEntity entity do
      modify fun s => { s with tag := none }
      readContentWith (expandInContent levels) (entity.value.length + 1) 0
    modify fun s => { s with tag }

/-- Reads a whole document. -/
def readDocument : TreeReader Unit := do
  let fuel := (← get).rest.length + 1
  if ← startsWith "<?xml " then skipDeclaration
  skipMisc fuel
  skipSpaces
  if ← startsWith "<!DOCTYPE" then
    readDoctype
    skipMisc fuel
  skipSpaces
  if (← peek?) == some '<' then
    if ← readStartTag then readContentWith (expandInContent 11) fuel 0
  skipMisc fuel
  if !(← atEnd) then failHere .unknownToken

end TreeReader

/-- Skips a byte order mark, which counts in offsets. -/
def initialTreeState (text : List Char) : TreeState :=
  match text with
  | c :: rest => if c.toNat = 0xFEFF then ⟨rest, 3, [], [], none, none, [], [], 0, 0⟩
    else ⟨text, 0, [], [], none, none, [], [], 0, 0⟩
  | [] => ⟨[], 0, [], [], none, none, [], [], 0, 0⟩

/-- Reads a document into its element tree. -/
def readTree (text : List Char) : Except TreeError Element :=
  match TreeReader.readDocument.run (initialTreeState text) with
  | .error e => .error e
  | .ok (_, s) =>
    if !s.opened.isEmpty then .error ⟨.unclosedRoot, 0⟩
    else
      match s.root with
      | some root => .ok (root.withPlaces [])
      | none => .error ⟨.noRoot, 0⟩

end XmlSchema.Xml

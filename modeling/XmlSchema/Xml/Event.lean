import XmlSchema.Xml.Reference

/-!
# Markup events

A document is read as a list of events.  A start tag carries its attributes as decoded, together
with the offset of each; a text carries its decoded characters; a construct that the reader does
not accept ends the list with `Event.malformed`.  Everything that is not accepted is a `Fault`: a
cause and the byte offset at which it is reported.
-/

namespace XmlSchema.Xml

/-- Constructs that the event reader does not accept. -/
inductive MarkupError where
  | unknownDeclaration
  | unclosedComment
  | unclosedCharacterData
  | unclosedDoctype
  | unclosedInstruction
  | unclosedTag
  | doctypeWithoutName
  deriving DecidableEq, Repr

/-- The wording of a markup error. -/
def MarkupError.message : MarkupError → String
  | .unknownDeclaration => "syntax error: unknown or missed symbol in markup"
  | .unclosedComment => "syntax error: comment not closed: `-->` not found before end of input"
  | .unclosedCharacterData =>
    "syntax error: CDATA not closed: `]]>` not found before end of input"
  | .unclosedDoctype => "syntax error: DOCTYPE not closed: `>` not found before end of input"
  | .unclosedInstruction =>
    "syntax error: processing instruction or xml declaration not closed: " ++
      "`?>` not found before end of input"
  | .unclosedTag => "syntax error: tag not closed: `>` not found before end of input"
  | .doctypeWithoutName =>
    "ill-formed document: `<!DOCTYPE>` declaration does not contain a name of a document type"

/-- Attribute lists that are not accepted; positions are byte offsets into the tag's content. -/
inductive AttributeError where
  | expectedEquals (position : Nat)
  | expectedValue (position : Nat)
  | unquotedValue (position : Nat)
  | unclosedValue (position : Nat) (quote : Char)
  | duplicate (position previous : Nat)
  deriving DecidableEq, Repr

/-- The wording of an attribute error. -/
def AttributeError.message : AttributeError → String
  | .expectedEquals p =>
    s!"position {p}: attribute key must be directly followed by `=` or space"
  | .expectedValue p => s!"position {p}: `=` must be followed by an attribute value"
  | .unquotedValue p => s!"position {p}: attribute value must be enclosed in `\"` or `'`"
  | .unclosedValue p quote => s!"position {p}: missing closing quote `{quote}` in attribute value"
  | .duplicate p previous =>
    s!"position {p}: duplicated attribute, previous declaration at position {previous}"

/-- Why a document is not well-formed. -/
inductive FaultCause where
  | markup (cause : MarkupError)
  | attributeList (cause : AttributeError)
  | reference (cause : Reference.Error)
  | multipleRoots
  | undeclaredPrefix (name : String)
  | rootLevelText
  | unexpectedEndTag
  | mismatchedEndTag (expected : String) (line column : Nat) (actual : String)
  | unclosedElements (names : List String)
  deriving DecidableEq, Repr

/-- A text with its first letter in upper case. -/
def capitalize (s : String) : String :=
  match s.toList with
  | [] => ""
  | c :: cs => String.ofList (c.toUpper :: cs)

/-- The wording of a fault. -/
def FaultCause.message : FaultCause → String
  | .markup cause => capitalize cause.message
  | .attributeList cause => capitalize cause.message
  | .reference cause => capitalize cause.message
  | .multipleRoots => "There are multiple root elements."
  | .undeclaredPrefix name => s!"'{name}' is an undeclared prefix."
  | .rootLevelText => "Data at the root level is invalid."
  | .unexpectedEndTag => "Unexpected end tag."
  | .mismatchedEndTag expected line column actual =>
    s!"The '{expected}' start tag on line {line.toUInt32} position {column.toUInt32} " ++
      s!"does not match the end tag of '{actual}'."
  | .unclosedElements names =>
    "Unexpected end of file has occurred. The following elements are not closed: " ++
      ", ".intercalate names ++ "."

/-- A place where a document is not well-formed. -/
structure Fault where
  cause : FaultCause
  offset : Nat
  deriving DecidableEq, Repr

/-- An attribute of a start tag: its name as written, its decoded value and the offset of its
name. -/
structure Attribute where
  rawName : String
  value : String
  offset : Nat
  deriving DecidableEq, Repr

/-- A start tag, or an empty-element tag when `selfClosing` is set.  `offset` is where the tag
starts and `stop` where the reader stands behind it. -/
structure StartTag where
  rawName : String
  attributes : Except Fault (List Attribute)
  selfClosing : Bool
  offset : Nat
  stop : Nat

/-- What the reader sees next in a document. -/
inductive Event where
  | startTag (tag : StartTag)
  | endTag (rawName : String) (offset stop : Nat)
  | text (content : Except Fault String) (offset : Nat)
  | other
  | malformed (fault : Fault)
  | endOfInput

end XmlSchema.Xml

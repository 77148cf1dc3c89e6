import XmlSchema.Datatype.Value
import XmlSchema.Report
import XmlSchema.SchemaError
import XmlSchema.Text.Position
import XmlSchema.Xml.Event

/-!
# Findings

Everything that validation can find in a document, with its severity and its wording.
-/

namespace XmlSchema

/-- Something that validation finds in a document.  Names of elements and attributes are those of
the document; `expected` lists what the content model would have admitted. -/
inductive Finding where
  /-- The document is not well-formed at the given place. -/
  | malformed (cause : Xml.FaultCause) (place : Text.Position)
  | missingRoot
  | schemaUnavailable (namespaceName : String) (error : SchemaError)
  | danglingNamespace (namespaceName : String)
  | inlineSchema (error : SchemaError)
  | nilContent (element : QName)
  | childOfEmpty (element child : QName)
  | childOfSimple (element child : QName)
  | unexpectedChild (element child : QName) (suffix : String)
  | undeclaredElement (element : QName)
  | unknownElement (element : QName)
  | unknownAttribute (name : QName)
  | abstractElement (element : QName)
  | invalidType (value : String)
  | nilNotAllowed
  | undeclaredAttribute (name : QName)
  | missingAttribute (name : QName)
  | attributeValue (name : QName) (value label : String) (error : ValueError)
  | attributeFixed (name : QName)
  | textInEmpty (element : QName)
  | textInElements (element : QName) (suffix : String)
  | incomplete (element : QName) (suffix : String)
  | elementValue (element : QName) (value label : String) (error : ValueError)
  | elementFixed (element : QName)
  deriving DecidableEq, Repr

namespace Finding

/-- Missing information is worth a warning; everything else is an error. -/
def severity : Finding → Severity
  | .danglingNamespace _ | .unknownElement _ | .unknownAttribute _ => .warning
  | _ => .error

/-- A text that ends in a full stop. -/
def sentence (text : String) : String :=
  if text.toList.getLast? = some '.' then text else text ++ "."

/-- The wording of an invalid value. -/
def invalidValue (value label : String) (error : ValueError) : String :=
  s!"The value '{value}' is invalid according to its datatype '{label}' - {error.message}"

/-- The wording of a finding. -/
def message : Finding → String
  | .malformed cause place =>
    sentence cause.message ++ s!" Line {place.line.toUInt32}, position {place.column.toUInt32}."
  | .missingRoot => "Root element is missing."
  | .schemaUnavailable namespaceName error =>
    s!"Cannot load the schema for the namespace '{namespaceName}' - {error.message}"
  | .danglingNamespace namespaceName =>
    "The 'schemaLocation' attribute has no schema location for the namespace " ++
      s!"'{namespaceName}'."
  | .inlineSchema error => error.message
  | .nilContent element =>
    s!"Element '{element.text}' must have no character or element children."
  | .childOfEmpty element child =>
    s!"The element '{element.text}' cannot contain child element '{child.text}' " ++
      "because the parent element's content model is empty."
  | .childOfSimple element child =>
    s!"The element '{element.text}' cannot contain child element '{child.text}' " ++
      "because the parent element's content model is text only."
  | .unexpectedChild element child suffix =>
    s!"The element '{element.text}' has invalid child element '{child.text}'." ++ suffix
  | .undeclaredElement element => s!"The '{element.text}' element is not declared."
  | .unknownElement element =>
    s!"Could not find schema information for the element '{element.text}'."
  | .unknownAttribute name =>
    s!"Could not find schema information for the attribute '{name.text}'."
  | .abstractElement element =>
    s!"The element '{element.text}' is abstract or its type is abstract."
  | .invalidType value => s!"This is an invalid xsi:type '{value}'."
  | .nilNotAllowed =>
    "If the 'nillable' attribute is false in the schema, " ++
      "the 'xsi:nil' attribute must not be present in the instance."
  | .undeclaredAttribute name => s!"The '{name.text}' attribute is not declared."
  | .missingAttribute name => s!"The required attribute '{name.text}' is missing."
  | .attributeValue name value label error =>
    s!"The '{name.text}' attribute is invalid - " ++ invalidValue value label error
  | .attributeFixed name =>
    s!"The value of the '{name.text}' attribute does not equal its fixed value."
  | .textInEmpty element =>
    s!"The element '{element.text}' cannot contain text because the content model is empty."
  | .textInElements element suffix =>
    s!"The element '{element.text}' cannot contain text." ++ suffix
  | .incomplete element suffix =>
    s!"The element '{element.text}' has incomplete content." ++ suffix
  | .elementValue element value label error =>
    s!"The '{element.text}' element is invalid - " ++ invalidValue value label error
  | .elementFixed element =>
    s!"The value of the '{element.text}' element does not equal its fixed value."

end Finding

/-- A finding with the byte offset at which it is reported. -/
structure Remark where
  finding : Finding
  offset : Nat
  deriving DecidableEq, Repr

/-- A remark about a document as an issue of a report. -/
def Remark.toIssue (text : List Char) (r : Remark) : Issue :=
  let place := Text.position text r.offset
  ⟨r.finding.severity, r.finding.message, place.line.toUInt32, place.column.toUInt32⟩

end XmlSchema

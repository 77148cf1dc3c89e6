import XmlSchema.Path

/-!
# Schema errors

Why a schema document could not be obtained or compiled.  A document that is well-formed but no
schema has a `SchemaFault`.
-/

namespace XmlSchema

/-- What is wrong with the content of a schema document. -/
inductive SchemaFault where
  | wrongRoot
  | missingName (element : String)
  | missingBase (element : String)
  | undeclaredPrefix (name : String)
  | minOccurs (value : String)
  | maxOccurs (value : String)
  | occursOrder
  | emptySimpleContent
  | emptyComplexContent
  | emptySimpleType
  | facet (name value : String)
  /-- The elements are nested beyond the depth that was allowed for. -/
  | tooDeep
  deriving DecidableEq, Repr

/-- The wording of a fault. -/
def SchemaFault.message : SchemaFault → String
  | .wrongRoot =>
    "The root element of a W3C XML Schema should be <schema> and its namespace should be " ++
      "'http://www.w3.org/2001/XMLSchema'."
  | .missingName element => s!"The required attribute 'name' is missing on <{element}>."
  | .missingBase element => s!"The required attribute 'base' is missing on <{element}>."
  | .undeclaredPrefix name => s!"'{name}' is an undeclared prefix."
  | .minOccurs value => s!"Invalid minOccurs value '{value}'."
  | .maxOccurs value => s!"Invalid maxOccurs value '{value}'."
  | .occursOrder => "minOccurs value cannot be greater than maxOccurs value."
  | .emptySimpleContent => "simpleContent requires an extension or restriction."
  | .emptyComplexContent => "complexContent requires an extension or restriction."
  | .emptySimpleType => "simpleType requires a restriction, list or union."
  | .facet name value => s!"Invalid {name} facet value '{value}'."
  | .tooDeep => "The schema is nested too deeply."

/-- Why a schema document is not available. -/
inductive SchemaError where
  | notFound (path : Path)
  | unreadable (path : Path) (reason : String)
  | malformed (path : Path) (details : String)
  | invalid (path : Path) (fault : SchemaFault)
  | namespaceMismatch (expected actual : String)
  | unsupportedLocation (location : String)
  deriving DecidableEq, Repr

/-- The wording of a schema error. -/
def SchemaError.message : SchemaError → String
  | .notFound path => s!"Could not find file '{path.text}'."
  | .unreadable path reason => s!"Could not read file '{path.text}': {reason}"
  | .malformed path details => s!"The schema file '{path.text}' is not well-formed: {details}"
  | .invalid path fault => s!"The schema file '{path.text}' is invalid: {fault.message}"
  | .namespaceMismatch expected actual =>
    s!"The targetNamespace parameter '{expected}' should be the same value as the " ++
      s!"targetNamespace '{actual}' of the schema."
  | .unsupportedLocation location =>
    s!"Remote schema locations are not supported: '{location}'."

end XmlSchema

import XmlSchema.Component.Types
import XmlSchema.Location
import XmlSchema.SchemaError
import XmlSchema.Xml.TreeReader

/-!
# Reading schema components

`SchemaDocument.readAs` compiles the text of a schema document.  The reading follows the element
tree: `elementDecl`, `particle`, `modelGroup` and `complexType` call each other on parts of their
element, and `simpleType` calls itself.  These take the depth to which they may go as an argument;
`SchemaDocument.ofElement` allows for the depth of the whole tree.
-/

namespace XmlSchema

open XmlSchema.Text

mutual

/-- The depth of an element tree. -/
def Xml.Element.depth : Xml.Element → Nat
  | ⟨_, _, _, children, _⟩ => 1 + Xml.Element.depthOfAll children

/-- The depth of the deepest of several trees. -/
def Xml.Element.depthOfAll : List Xml.Element → Nat
  | [] => 0
  | e :: es => max e.depth (Xml.Element.depthOfAll es)

end

/-- What is known about all components of a schema document: the document, and what its root says
about them. -/
structure SchemaContext where
  document : DocumentId
  targetNamespace : String
  /-- Local elements belong to the target namespace unless they say otherwise. -/
  qualifiedElements : Bool
  /-- Local attributes belong to the target namespace unless they say otherwise. -/
  qualifiedAttributes : Bool

/-- The result of reading a component. -/
abbrev ReadResult := Except SchemaFault

namespace SchemaContext

open XmlSchema.Xml (Element)

/-! ## Attributes of schema elements -/

/-- The value of the attribute `name`, which must be there. -/
def requiredName (e : Element) : ReadResult String :=
  match e.attribute? "name" with
  | some name => .ok name
  | none => .error (.missingName e.name.localName)

/-- The name that a text stands for in the scope of an element. -/
def qualifiedName (e : Element) (value : String) : ReadResult QName :=
  match QName.splitPrefix (trimString value) with
  | (none, localName) => .ok ⟨(e.lookupPrefix none).getD "", localName⟩
  | (some pre, localName) =>
    if pre = "xml" then .ok ⟨xmlNamespace, localName⟩
    else
      match e.lookupPrefix (some pre) with
      | some namespaceName => .ok ⟨namespaceName, localName⟩
      | none => .error (.undeclaredPrefix pre)

/-- The name in an attribute of an element, if the attribute is there. -/
def attributeName? (e : Element) (attributeName : String) : ReadResult (Option QName) :=
  match e.attribute? attributeName with
  | none => .ok none
  | some value => (qualifiedName e value).map some

/-- The name in the attribute `base`, which must be there. -/
def requiredBase (e : Element) : ReadResult QName := do
  match ← attributeName? e "base" with
  | some base => return base
  | none => throw (.missingBase e.name.localName)

/-- The occurrence bounds of an element. -/
def occurs (e : Element) : ReadResult (Nat × MaxOccurs) := do
  let min ← match e.attribute? "minOccurs" with
    | none => pure 1
    | some value =>
      match nat? maxWord32 (trim value.toList) with
      | some n => pure n
      | none => throw (.minOccurs value)
  match (e.attribute? "maxOccurs").map trimString with
  | none => if 1 < min then throw .occursOrder else return (min, .bounded 1)
  | some "unbounded" => return (min, .unbounded)
  | some value =>
    match nat? maxWord32 value.toList with
    | some max => if max < min then throw .occursOrder else return (min, .bounded max)
    | none => throw (.maxOccurs value)

/-- How a derivation element derives. -/
def derivationMethod (e : Element) : DerivationMethod :=
  if e.name.localName = "extension" then .extension else .restriction

/-- The namespace of a declaration: global ones and qualified local ones belong to the target
namespace. -/
def declarationNamespace (c : SchemaContext) (isGlobal qualifiedDefault : Bool) (e : Element) :
    String :=
  let qualified := match e.attribute? "form" with
    | some form => form == "qualified"
    | none => qualifiedDefault
  if isGlobal || qualified then c.targetNamespace else ""

/-- The wildcard that an element describes. -/
def wildcard (c : SchemaContext) (e : Element) : Wildcard :=
  let namespaces := match (e.attribute? "namespace").map trimString with
    | none => .any
    | some "##any" => .any
    | some "##other" => .other c.targetNamespace
    | some names => .list <| (splitWords names).map fun name =>
        if name = "##targetNamespace" then c.targetNamespace
        else if name = "##local" then ""
        else name
  let process := match e.attribute? "processContents" with
    | some "lax" => .lax
    | some "skip" => .skip
    | _ => .strict
  ⟨namespaces, process⟩

/-! ## Simple types -/

/-- The number in a facet. -/
def facetNumber (limit : Nat) (name value : String) : ReadResult Nat :=
  match nat? limit (trim value.toList) with
  | some n => .ok n
  | none => .error (.facet name value)

/-- Takes in the facet called `name`; names that are no facets are passed over. -/
def addFacet (facets : Facets) (name value : String) : ReadResult Facets :=
  match name with
  | "enumeration" => .ok { facets with enumeration := facets.enumeration ++ [value] }
  | "pattern" => .ok { facets with patterns := facets.patterns ++ (Pattern.ofFacet? value).toList }
  | "length" => return { facets with length := some (← facetNumber maxWord64 name value) }
  | "minLength" => return { facets with minLength := some (← facetNumber maxWord64 name value) }
  | "maxLength" => return { facets with maxLength := some (← facetNumber maxWord64 name value) }
  | "minInclusive" => .ok { facets with minInclusive := some (trimString value) }
  | "maxInclusive" => .ok { facets with maxInclusive := some (trimString value) }
  | "minExclusive" => .ok { facets with minExclusive := some (trimString value) }
  | "maxExclusive" => .ok { facets with maxExclusive := some (trimString value) }
  | "totalDigits" => return { facets with totalDigits := some (← facetNumber maxWord32 name value) }
  | "fractionDigits" =>
    return { facets with fractionDigits := some (← facetNumber maxWord32 name value) }
  | "whiteSpace" =>
    let mode := match trimString value with
      | "preserve" => .preserve
      | "replace" => .replace
      | _ => .collapse
    .ok { facets with whiteSpace := some mode }
  | _ => .ok facets

/-- The facets among the children of an element. -/
def facets (e : Element) : ReadResult Facets :=
  e.schemaChildren.foldlM (fun facets child =>
    match child.attribute? "value" with
    | some value => addFacet facets child.name.localName value
    | none => .ok facets) {}

/-- The type that a simple type is derived from when it names none. -/
def anySimpleType : TypeRef := .named (.schema "anySimpleType")

/-- Reads a simple type. -/
def simpleType (c : SchemaContext) : Nat → Option String → Element → ReadResult SimpleType
  | 0, _, _ => .error .tooDeep
  | depth + 1, localName, e => do
    let name := localName.map (QName.mk c.targetNamespace)
    -- the type named by an attribute, or the one that stands inside
    let component (part : Element) (attributeName : String) : ReadResult TypeRef := do
      match ← attributeName? part attributeName with
      | some name => return .named name
      | none =>
        match part.schemaChild? "simpleType" with
        | some inner => return .simple (← simpleType c depth none inner)
        | none => return anySimpleType
    if let some restriction := e.schemaChild? "restriction" then
      let base ← component restriction "base"
      return ⟨name, .restriction base (← facets restriction)⟩
    else if let some list := e.schemaChild? "list" then
      return ⟨name, .list (← component list "itemType")⟩
    else if let some union := e.schemaChild? "union" then
      let named ← (splitWords ((union.attribute? "memberTypes").getD "")).mapM fun member =>
        TypeRef.named <$> qualifiedName union member
      let inner ← (union.schemaChildren.filter (·.name.localName == "simpleType")).mapM fun part =>
        TypeRef.simple <$> simpleType c depth none part
      return ⟨name, .union (named ++ inner)⟩
    else throw .emptySimpleType

/-! ## Attributes -/

/-- Reads an attribute declaration. -/
def attributeDecl (c : SchemaContext) (depth : Nat) (isGlobal : Bool) (e : Element) :
    ReadResult AttributeDecl := do
  let localName ← requiredName e
  let namespaceName := c.declarationNamespace isGlobal c.qualifiedAttributes e
  let type ← match ← attributeName? e "type" with
    | some name => pure (some (TypeRef.named name))
    | none =>
      match e.schemaChild? "simpleType" with
      | some inner => (some ∘ TypeRef.simple) <$> c.simpleType depth none inner
      | none => pure none
  return ⟨⟨namespaceName, localName⟩, type, e.attribute? "default", e.attribute? "fixed"⟩

/-- Reads an attribute use. -/
def attributeUse (c : SchemaContext) (depth : Nat) (e : Element) : ReadResult AttributeItem := do
  let usage := match e.attribute? "use" with
    | some "required" => .required
    | some "prohibited" => .prohibited
    | _ => .optional
  match ← attributeName? e "ref" with
  | some name =>
    return .use ⟨name, none, e.attribute? "default", e.attribute? "fixed"⟩ usage true
  | none => return .use (← c.attributeDecl depth false e) usage false

/-- Takes in one child of an element with attributes. -/
def addAttributeItem (c : SchemaContext) (depth : Nat) (group : AttributeGroup) (e : Element) :
    ReadResult AttributeGroup := do
  match e.name.localName with
  | "attribute" =>
    return { group with attributes := group.attributes ++ [← c.attributeUse depth e] }
  | "attributeGroup" =>
    match ← attributeName? e "ref" with
    | some name => return { group with attributes := group.attributes ++ [.groupRef name] }
    | none => return group
  | "anyAttribute" => return { group with anyAttribute := some (c.wildcard e) }
  | _ => return group

/-- The attributes among the children of an element; the last wildcard counts. -/
def attributeItems (c : SchemaContext) (depth : Nat) (e : Element) : ReadResult AttributeGroup :=
  e.schemaChildren.foldlM (c.addAttributeItem depth) ⟨[], none⟩

/-! ## Complex types and elements -/

/-- Reads the derivation inside `simpleContent`. -/
def simpleContent (c : SchemaContext) (depth : Nat) (type : ComplexType) (derivation : Element) :
    ReadResult ComplexType := do
  let base ← requiredBase derivation
  let method := derivationMethod derivation
  let content ← match method with
    | .extension => pure (TypeRef.named base)
    | .restriction =>
      let restricted ← match derivation.schemaChild? "simpleType" with
        | some inner => TypeRef.simple <$> c.simpleType depth none inner
        | none => pure (TypeRef.named base)
      pure (TypeRef.simple ⟨none, .restriction restricted (← facets derivation)⟩)
  let items ← c.attributeItems depth derivation
  return { type with
    content := .simple content, base := some (base, method), attributes := items.attributes,
    anyAttribute := items.anyAttribute }

/-- The elements that derive a type from another. -/
def derivation? (e : Element) : Option Element :=
  e.schemaChildAmong? ["extension", "restriction"]

mutual

/-- Reads an element declaration. -/
def elementDecl (c : SchemaContext) : Nat → Bool → Element → ReadResult ElementDecl
  | 0, _, _ => .error .tooDeep
  | depth + 1, isGlobal, e => do
    let localName ← requiredName e
    let namespaceName := c.declarationNamespace isGlobal c.qualifiedElements e
    let type ← match ← attributeName? e "type" with
      | some name => pure (some (TypeRef.named name))
      | none =>
        match e.schemaChild? "complexType", e.schemaChild? "simpleType" with
        | some inner, _ => (some ∘ TypeRef.complex) <$> complexType c depth none inner
        | none, some inner => (some ∘ TypeRef.simple) <$> c.simpleType depth none inner
        | none, none => pure none
    return {
      name := ⟨namespaceName, localName⟩
      type
      nillable := e.attribute? "nillable" == some "true"
      isAbstract := e.attribute? "abstract" == some "true"
      default := e.attribute? "default"
      fixed := e.attribute? "fixed" }

/-- Reads a particle; elements that are no particles give none. -/
def particle (c : SchemaContext) : Nat → Element → ReadResult (Option (Particle ElementDecl))
  | 0, _ => .error .tooDeep
  | depth + 1, e => do
    let (min, max) ← occurs e
    match e.name.localName with
    | "element" =>
      match ← attributeName? e "ref" with
      | some name => return some ⟨min, max, .elementRef name⟩
      | none => return some ⟨min, max, .element (← elementDecl c depth false e)⟩
    | "any" => return some ⟨min, max, .wildcard (c.wildcard e)⟩
    | "group" =>
      match ← attributeName? e "ref" with
      | some name => return some ⟨min, max, .groupRef name⟩
      | none => return none
    | "sequence" | "choice" | "all" => return some (← modelGroup c depth e)
    | _ => return none

/-- Reads a model group. -/
def modelGroup (c : SchemaContext) : Nat → Element → ReadResult (Particle ElementDecl)
  | 0, _ => .error .tooDeep
  | depth + 1, e => do
    let (min, max) ← occurs e
    let items := (← e.schemaChildren.mapM (particle c depth)).filterMap id
    match e.name.localName with
    | "choice" => return ⟨min, max, .choice items⟩
    | "all" => return ⟨min, max, .all items⟩
    | _ => return ⟨min, max, .sequence items⟩

/-- Reads a complex type. -/
def complexType (c : SchemaContext) : Nat → Option String → Element → ReadResult ComplexType
  | 0, _, _ => .error .tooDeep
  | depth + 1, localName, e => do
    let type : ComplexType := {
      identity := .definedAt c.document e.place
      name := localName.map (QName.mk c.targetNamespace)
      mixed := e.attribute? "mixed" == some "true"
      isAbstract := e.attribute? "abstract" == some "true"
      content := .empty
      base := none
      attributes := []
      anyAttribute := none }
    match e.schemaChild? "simpleContent", e.schemaChild? "complexContent" with
    | some content, _ =>
      match derivation? content with
      | some derivation => c.simpleContent depth type derivation
      | none => throw .emptySimpleContent
    | none, some content =>
      match derivation? content with
      | none => throw .emptyComplexContent
      | some derivation =>
        let mixed := match content.attribute? "mixed" with
          | some mixed => mixed == "true"
          | none => type.mixed
        let base ← requiredBase derivation
        complexContent c depth { type with mixed, base := some (base, derivationMethod derivation) }
          derivation
    | none, none => complexContent c depth type e

/-- Reads the content and the attributes that stand in `holder`. -/
def complexContent (c : SchemaContext) : Nat → ComplexType → Element → ReadResult ComplexType
  | 0, _, _ => .error .tooDeep
  | depth + 1, type, holder => do
    let own ← match holder.schemaChildAmong? ["sequence", "choice", "all", "group"] with
      | some group => particle c depth group
      | none => pure none
    let content := match own with
      | some particle => .particle particle
      | none => if type.mixed then .particle .emptySequence else .empty
    let items ← c.attributeItems depth holder
    return { type with
      content, attributes := items.attributes, anyAttribute := items.anyAttribute }

end

/-! ## Documents -/

/-- The file named by the `schemaLocation` of an element, seen from the document at `location`;
locations on the network are left out. -/
def referencedPath? (location : Path) (e : Element) : Option Path :=
  (e.attribute? "schemaLocation").bind fun value =>
    match SchemaLocation.ofText value (location.parent?.getD ⟨[]⟩) with
    | .file path => some path
    | .remote _ => none

/-- Takes in a child of the root element. -/
def addComponent (c : SchemaContext) (depth : Nat) (d : SchemaDocument) (e : Element) :
    ReadResult SchemaDocument := do
  match e.name.localName with
  | "element" =>
    let decl ← c.elementDecl depth true e
    return { d with elements := Table.insert d.elements decl.name.localName decl }
  | "attribute" =>
    let decl ← c.attributeDecl depth true e
    return { d with attributes := Table.insert d.attributes decl.name.localName decl }
  | "complexType" =>
    let name ← requiredName e
    let type ← c.complexType depth (some name) e
    return { d with types := Table.insert d.types name (.complex type) }
  | "simpleType" =>
    let name ← requiredName e
    let type ← c.simpleType depth (some name) e
    return { d with types := Table.insert d.types name (.simple type) }
  | "group" =>
    let name ← requiredName e
    let particle ← match e.schemaChildAmong? ["sequence", "choice", "all"] with
      | some group => c.modelGroup depth group
      | none => pure .emptySequence
    return { d with groups := Table.insert d.groups name particle }
  | "attributeGroup" =>
    let name ← requiredName e
    let group ← c.attributeItems depth e
    return { d with attributeGroups := Table.insert d.attributeGroups name group }
  | "include" | "redefine" =>
    return { d with includes := d.includes ++ (referencedPath? d.location e).toList }
  | "import" =>
    let namespaceName := (e.attribute? "namespace").getD ""
    let paths := (referencedPath? d.location e).toList
    return { d with imports := d.imports ++ paths.map (namespaceName, ·) }
  | _ => return d

end SchemaContext

namespace SchemaDocument

/-- What is known about all components of the document with the given root. -/
def contextOf (document : DocumentId) (root : Xml.Element) : SchemaContext where
  document
  targetNamespace := (root.attribute? "targetNamespace").getD ""
  qualifiedElements := root.attribute? "elementFormDefault" == some "qualified"
  qualifiedAttributes := root.attribute? "attributeFormDefault" == some "qualified"

/-- Compiles the element tree of a schema document that lies at `location`. -/
def ofElement (identity : DocumentId) (root : Xml.Element) (location : Path) :
    ReadResult SchemaDocument :=
  if root.name = .schema "schema" then
    let c := contextOf identity root
    -- on its way down one level, reading takes at most three steps
    root.schemaChildren.foldlM (c.addComponent (3 * root.depth + 3))
      { targetNamespace := c.targetNamespace, identity, location }
  else .error .wrongRoot

/-- Compiles the text of a schema document that lies at `location`. -/
def readAs (identity : DocumentId) (text : String) (location : Path) :
    Except SchemaError SchemaDocument :=
  let cs := text.toList
  match Xml.readTree cs with
  | .error e => .error (.malformed location (e.message cs))
  | .ok root =>
    match ofElement identity root location with
    | .ok document => .ok document
    | .error fault => .error (.invalid location fault)

/-- Compiles the text of the file at `location`. -/
def read (text : String) (location : Path) : Except SchemaError SchemaDocument :=
  readAs (.file location.components) text location

end SchemaDocument

end XmlSchema

import XmlSchema.Proofs.Content.Matching
import XmlSchema.Validation.Run

/-!
# Conformity

The elements of an instance document form a tree (`ElementTree`).  Whether a tree conforms to a
schema set is defined by recursion on the tree (`ElementTree.Conforms`): what governs an element is
its context, the type of the element decides about its attributes and text, and its content model
gives every child a context of its own.  There are no events, no stack and no reports here.

What a type asks of an element that stands alone is `OpeningElement.ConformsIn`, where the inside of
the element is given by an `Interior`.
-/

namespace XmlSchema

/-! ## Trees -/

/-- A start tag: its name and attributes as written, and where it starts and ends. -/
structure ElementTag where
  rawName : String
  attributes : List Xml.Attribute
  offset : Nat
  stop : Nat

mutual

/-- An element: an empty-element tag, or tags with content between them; the end tag is given by its
place. -/
inductive ElementTree where
  | empty (tag : ElementTag)
  | node (tag : ElementTag) (content : ElementContent) (offset stop : Nat)

/-- What stands between the tags of an element.  Comments and processing instructions are
`other`. -/
inductive ElementContent where
  | nil
  | element (tree : ElementTree) (rest : ElementContent)
  | text (value : String) (offset : Nat) (rest : ElementContent)
  | other (rest : ElementContent)

end

namespace ElementTag

/-- The tag as the reader gives it. -/
def toStartTag (tag : ElementTag) (selfClosing : Bool) : Xml.StartTag :=
  ⟨tag.rawName, .ok tag.attributes, selfClosing, tag.offset, tag.stop⟩

/-- The scopes inside an element that stands in the given ones. -/
def inner (tag : ElementTag) (scopes : List Scope) : List Scope :=
  Scope.ofAttributes tag.attributes :: scopes

/-- The name of an element that stands in the given scopes. -/
def name (tag : ElementTag) (scopes : List Scope) : QName :=
  (Scope.elementName? (tag.inner scopes) tag.rawName).getD ⟨"", tag.rawName⟩

/-- An attribute with its name resolved. -/
def named (scopes : List Scope) (a : Xml.Attribute) : NamedAttribute :=
  ⟨if (Scope.declaredPrefix? a.rawName).isSome then none else Scope.attributeName? scopes a.rawName,
    a.value, a.offset⟩

/-- The element that opens with the tag. -/
def opening (tag : ElementTag) (scopes : List Scope) : OpeningElement :=
  ⟨tag.name scopes, tag.attributes.map (named (tag.inner scopes)), tag.inner scopes, tag.offset + 1⟩

end ElementTag

namespace ElementTree

/-- The start tag of an element. -/
def tag : ElementTree → ElementTag
  | empty tag => tag
  | node tag _ _ _ => tag

/-- The name of an element that stands in the given scopes. -/
def name (tree : ElementTree) (scopes : List Scope) : QName := tree.tag.name scopes

end ElementTree

mutual

/-- The events that a reader meets. -/
def ElementTree.events : ElementTree → List Xml.Event
  | .empty tag => [.startTag (tag.toStartTag true)]
  | .node tag content offset stop =>
    .startTag (tag.toStartTag false) :: (content.events ++ [.endTag tag.rawName offset stop])

/-- The events that a reader meets between two tags. -/
def ElementContent.events : ElementContent → List Xml.Event
  | .nil => []
  | .element tree rest => tree.events ++ rest.events
  | .text value offset rest => .text (.ok value) offset :: rest.events
  | .other rest => .other :: rest.events

end

mutual

/-- The tags of an element and of all elements in it, each with the scopes it stands in. -/
def ElementTree.tags : ElementTree → List Scope → List (ElementTag × List Scope)
  | .empty tag, scopes => [(tag, scopes)]
  | .node tag content _ _, scopes => (tag, scopes) :: content.tags (tag.inner scopes)

/-- The tags of all elements between two tags. -/
def ElementContent.tags : ElementContent → List Scope → List (ElementTag × List Scope)
  | .nil, _ => []
  | .element tree rest, scopes => tree.tags scopes ++ rest.tags scopes
  | .text _ _ rest, scopes => rest.tags scopes
  | .other rest, scopes => rest.tags scopes

end

/-- The prefixes on a tag are declared. -/
def ElementTag.WellFormed (tag : ElementTag) (scopes : List Scope) : Prop :=
  (Scope.elementName? (tag.inner scopes) tag.rawName).isSome ∧
    ∀ a ∈ tag.attributes, (Scope.declaredPrefix? a.rawName).isSome ∨
      (Scope.attributeName? (tag.inner scopes) a.rawName).isSome

instance (tag : ElementTag) (scopes : List Scope) : Decidable (tag.WellFormed scopes) :=
  inferInstanceAs (Decidable (_ ∧ _))

namespace ElementTree

variable (tree : ElementTree)

/-- All prefixes of the document are declared. -/
def WellFormed : Prop := ∀ place ∈ tree.tags [], place.1.WellFormed place.2

/-- The document points to no schemas. -/
def NoHints : Prop :=
  ∀ place ∈ tree.tags [], ∀ a ∈ (place.1.opening place.2).attributes,
    a.isInstance "schemaLocation" = false ∧ a.isInstance "noNamespaceSchemaLocation" = false

/-- The document contains no schemas. -/
def NoSchemas : Prop := ∀ place ∈ tree.tags [], place.1.name place.2 ≠ .schema "schema"

instance : Decidable tree.WellFormed := inferInstanceAs (Decidable (∀ _ ∈ _, _))

instance : Decidable tree.NoHints := inferInstanceAs (Decidable (∀ _ ∈ _, _))

instance : Decidable tree.NoSchemas := inferInstanceAs (Decidable (∀ _ ∈ _, _))

end ElementTree

namespace ElementContent

/-- The names of the child elements. -/
def names : ElementContent → List Scope → List QName
  | nil, _ => []
  | element tree rest, scopes => tree.name scopes :: rest.names scopes
  | text _ _ rest, scopes => rest.names scopes
  | other rest, scopes => rest.names scopes

/-- The texts between child elements. -/
def texts : ElementContent → List String
  | nil => []
  | element _ rest => rest.texts
  | text value _ rest => value :: rest.texts
  | other rest => rest.texts

end ElementContent

/-! ## Attributes -/

/-- A value is one of the declared type, and the fixed one if there is one. -/
def AttributeDecl.Admits (set : SchemaSet) (declaration : AttributeDecl) (value : String) : Prop :=
  checkValue set.resolve (declaration.type.getD (.named (.schema "anySimpleType"))) value = .ok () ∧
    ∀ fixed ∈ declaration.fixed, sameCollapsed fixed value = true

/-- A wildcard that admits the namespace of an attribute also admits its value: it passes over the
value, or a global declaration admits it, or there is none.  A strict wildcard asks for a
declaration, but never for names of the XML namespace. -/
inductive Wildcard.Admits (set : SchemaSet) (wildcard : Wildcard) (name : QName)
    (value : String) : Prop where
  | skipped (skip : wildcard.process = .skip)
  | known {declaration : AttributeDecl} (known : set.attribute? name = some declaration)
    (admits : declaration.Admits set value)
  | unknown (unknown : set.attribute? name = none)
    (free : wildcard.process = .lax ∨ name.namespaceName = xmlNamespace)

/-- An attribute is allowed by a type: the first use with its name admits the value, or there is
none and the wildcard admits it. -/
inductive AttributeConforms (set : SchemaSet) (type : EffectiveType) (name : QName)
    (value : String) : Prop where
  | declared {use : AttributeUse}
    (found : type.attributes.find? (·.declaration.name == name) = some use)
    (admits : use.declaration.Admits set value)
  | undeclared {wildcard : Wildcard}
    (unused : type.attributes.find? (·.declaration.name == name) = none)
    (found : type.anyAttribute = some wildcard)
    (inNamespace : wildcard.namespaces.admits name.namespaceName = true)
    (admits : wildcard.Admits set name value)

/-- The attributes of an element are allowed by a type, and no required one is missing. -/
structure AttributesConform (set : SchemaSet) (type : EffectiveType)
    (attributes : List NamedAttribute) : Prop where
  allowed : ∀ a ∈ attributes, ∀ name, a.checkedName? = some name →
    AttributeConforms set type name a.value
  complete : ∀ use ∈ type.attributes, use.isRequired = true →
    ∃ a ∈ attributes, a.name = some use.declaration.name

/-! ## Content -/

/-- The inside of an element: the names of its children, its texts, and what it means that the
children conform when they are governed by the given contexts. -/
structure Interior where
  names : List QName
  texts : List String
  Conform : List Context → Prop

/-- The children conform laxly. -/
def Interior.ConformLaxly (interior : Interior) : Prop :=
  interior.Conform (interior.names.map fun _ => .lax)

/-- All texts are white space. -/
def Interior.IsBlank (interior : Interior) : Prop :=
  ∀ text ∈ interior.texts, Text.isBlankText text.toList = true

/-- A text is a value of a simple type.  An element without text has its default value; a fixed
value only matters to elements with text. -/
def SimpleConforms (set : SchemaSet) (declaration : ElementDecl) (type : TypeRef)
    (text : String) : Prop :=
  checkValue set.resolve type
      (if text.isEmpty then declaration.default.getD "" else text) = .ok () ∧
    (text.isEmpty = false → ∀ fixed ∈ declaration.fixed, sameCollapsed fixed text = true)

/-- The inside of an element is what the content of its type asks for. -/
def Interior.ConformsTo (set : SchemaSet) (declaration : ElementDecl) (mixed : Bool)
    (interior : Interior) : EffectiveContent → Prop
  | .empty => interior.names = [] ∧ interior.IsBlank
  | .simple type =>
    interior.names = [] ∧ SimpleConforms set declaration type (String.join interior.texts)
  | .elements model =>
    (mixed = true ∨ interior.IsBlank) ∧
      ∃ leaves last, (ContentMatcher.ofModel model).matchAll interior.names = some (leaves, last) ∧
        last.isComplete = true ∧ interior.Conform (leaves.map Leaf.context)

namespace OpeningElement

variable (set : SchemaSet) (declaration : ElementDecl) (e : OpeningElement)

/-- The element says that it is nil. -/
def SaysNil : Prop :=
  ∃ a, e.instanceAttribute? "nil" = some a ∧ Text.trimString a.value ∈ ["true", "1"]

/-- The type of an element: the declared one, or one that the element names and that exists. -/
inductive HasType : TypeRef → Prop where
  | declared (h : e.instanceAttribute? "type" = none) :
    HasType (declaration.type.getD (.named (.schema "anyType")))
  | named {a : NamedAttribute} {name : QName} (h : e.instanceAttribute? "type" = some a)
    (hname : Scope.elementName? e.scopes (Text.trimString a.value) = some name)
    (exists_ : (set.resolve (.named name)).isSome) : HasType (.named name)

/-- The inside of an element is empty if the element says that it is nil, and else what the content
of its type asks for. -/
def InteriorConforms (content : EffectiveContent) (mixed : Bool) (interior : Interior) : Prop :=
  (e.SaysNil → interior.names = [] ∧ interior.IsBlank) ∧
    (¬ e.SaysNil → interior.ConformsTo set declaration mixed content)

/-- An element conforms to a type.  Nothing is known about a type that does not exist, so that the
children are on their own. -/
def ConformsToType (type : TypeRef) (interior : Interior) : Prop :=
  match set.resolve type with
  | none => interior.ConformLaxly
  | some (.complex definition) =>
    (set.flatten definition).isAbstract = false ∧
      AttributesConform set (set.flatten definition) e.attributes ∧
      e.InteriorConforms set declaration (set.flatten definition).content
        (set.flatten definition).mixed interior
  | some _ =>
    (∀ a ∈ e.attributes, a.checkedName? = none) ∧
      e.InteriorConforms set declaration (.simple type) false interior

/-- An element conforms to a declaration. -/
def ConformsToDeclaration (interior : Interior) : Prop :=
  declaration.isAbstract = false ∧ (e.SaysNil → declaration.nillable = true) ∧
    ∃ type, e.HasType set declaration type ∧ e.ConformsToType set declaration type interior

/-- An element conforms in its context. -/
def ConformsIn (interior : Interior) : Context → Prop
  | .skip => True
  | .declared declaration => e.ConformsToDeclaration set declaration interior
  | .lax =>
    match set.element? e.name with
    | some declaration => e.ConformsToDeclaration set declaration interior
    | none => set.isEmpty = true ∧ interior.ConformLaxly
  | .strictWildcard =>
    ∃ declaration, set.element? e.name = some declaration ∧
      e.ConformsToDeclaration set declaration interior
  | .laxWildcard =>
    match set.element? e.name with
    | some declaration => e.ConformsToDeclaration set declaration interior
    | none => interior.ConformLaxly

end OpeningElement

/-! ## Conforming trees -/

section Conforming

variable (set : SchemaSet)

mutual

/-- An element that stands in the given scopes conforms when it is governed by the context. -/
def ElementTree.Conforms : ElementTree → Context → List Scope → Prop
  | .empty tag, context, scopes =>
    (tag.opening scopes).ConformsIn set ⟨[], [], fun _ => True⟩ context
  | .node tag content _ _, context, scopes =>
    (tag.opening scopes).ConformsIn set
      ⟨content.names (tag.inner scopes), content.texts,
        fun contexts => content.Conforms contexts (tag.inner scopes)⟩ context

/-- The child elements conform when they are governed by the contexts, one for each. -/
def ElementContent.Conforms : ElementContent → List Context → List Scope → Prop
  | .nil, _, _ => True
  | .element tree rest, context :: contexts, scopes =>
    tree.Conforms context scopes ∧ rest.Conforms contexts scopes
  | .element _ _, [], _ => False
  | .text _ _ rest, contexts, scopes => rest.Conforms contexts scopes
  | .other rest, contexts, scopes => rest.Conforms contexts scopes

end

end Conforming

end XmlSchema

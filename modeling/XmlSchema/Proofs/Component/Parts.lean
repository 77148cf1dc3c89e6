import XmlSchema.Component.Types

/-!
# Parts of schema documents

What a compiled document consists of, at any depth, is an inductive relation
(`SchemaDocument.Contains`): its global components, and with every component the parts of that
component (`Part.Has`).
-/

namespace XmlSchema

/-- The particles that a term is made of. -/
def Term.members {α : Type} : Term α → List (Particle α)
  | .sequence items | .choice items | .all items => items
  | _ => []

/-- The element that a term declares; references declare none. -/
def Term.declaration? {α : Type} : Term α → Option α
  | .element declaration => some declaration
  | .elementRef _ | .wildcard _ | .groupRef _ | .sequence _ | .choice _ | .all _ => none

/-- A component of a schema document, or a part of one. -/
inductive Part where
  | element (declaration : ElementDecl)
  | attribute (declaration : AttributeDecl)
  | attributeItem (item : AttributeItem)
  | particle (particle : Particle ElementDecl)
  | type (type : TypeRef)
  | complexType (definition : ComplexType)
  | simpleType (definition : SimpleType)

/-- What a part consists of. -/
inductive Part.Has : Part → Part → Prop where
  | elementType {d : ElementDecl} {t : TypeRef} (h : d.type = some t) : Has (.element d) (.type t)
  | attributeType {d : AttributeDecl} {t : TypeRef} (h : d.type = some t) :
      Has (.attribute d) (.type t)
  | use (d : AttributeDecl) (usage : AttributeUsage) (byRef : Bool) :
      Has (.attributeItem (.use d usage byRef)) (.attribute d)
  | declaration {p : Particle ElementDecl} {d : ElementDecl} (h : p.term.declaration? = some d) :
      Has (.particle p) (.element d)
  | item {p q : Particle ElementDecl} (h : q ∈ p.term.members) : Has (.particle p) (.particle q)
  | complexDefinition (t : ComplexType) : Has (.type (.complex t)) (.complexType t)
  | simpleDefinition (t : SimpleType) : Has (.type (.simple t)) (.simpleType t)
  | content {t : ComplexType} {p : Particle ElementDecl} (h : t.content = .particle p) :
      Has (.complexType t) (.particle p)
  | simpleContent {t : ComplexType} {r : TypeRef} (h : t.content = .simple r) :
      Has (.complexType t) (.type r)
  | attributeItem {t : ComplexType} {i : AttributeItem} (h : i ∈ t.attributes) :
      Has (.complexType t) (.attributeItem i)
  | base {t : SimpleType} {r : TypeRef} {f : Facets} (h : t.variety = .restriction r f) :
      Has (.simpleType t) (.type r)
  | listItem {t : SimpleType} {r : TypeRef} (h : t.variety = .list r) :
      Has (.simpleType t) (.type r)
  | member {t : SimpleType} {r : TypeRef} {rs : List TypeRef} (h : t.variety = .union rs)
      (mem : r ∈ rs) : Has (.simpleType t) (.type r)

/-- A definition as a type that stands where it is used. -/
def TypeDef.toRef : TypeDef → TypeRef
  | .complex definition => .complex definition
  | .simple definition => .simple definition

/-- What a document consists of, down to any depth. -/
inductive SchemaDocument.Contains (d : SchemaDocument) : Part → Prop where
  | globalElement {entry : String × ElementDecl} (h : entry ∈ d.elements) :
      Contains d (.element entry.2)
  | globalAttribute {entry : String × AttributeDecl} (h : entry ∈ d.attributes) :
      Contains d (.attribute entry.2)
  | type {entry : String × TypeDef} (h : entry ∈ d.types) : Contains d (.type entry.2.toRef)
  | group {entry : String × Particle ElementDecl} (h : entry ∈ d.groups) :
      Contains d (.particle entry.2)
  | attributeItem {entry : String × AttributeGroup} {i : AttributeItem}
      (h : entry ∈ d.attributeGroups) (mem : i ∈ entry.2.attributes) :
      Contains d (.attributeItem i)
  | part {a b : Part} (h : Contains d a) (has : a.Has b) : Contains d b

end XmlSchema

import XmlSchema.Component.Particle
import XmlSchema.Path

/-!
# Schema components

Declarations and type definitions, as compiled from a schema document.  Components refer to each
other by name; the names are looked up in the whole schema set when an instance is validated, so
that a type may stand in a document that is loaded later than the one that uses it.
-/

namespace XmlSchema

/-- What tells a schema document from others. -/
inductive DocumentId where
  /-- The document in a file, however the path of the file is written. -/
  | file (components : List Path.Component)
  /-- A schema inside an instance document; these are numbered as they are met. -/
  | inline (number : Nat)
  deriving DecidableEq, Repr

/-- What tells a complex type from others, whatever their names and contents. -/
inductive TypeId where
  /-- The type that comes without a document. -/
  | anyType
  /-- The type that the element at the given place of a document defines. -/
  | definedAt (document : DocumentId) (place : List Nat)
  deriving DecidableEq, Repr

mutual

/-- A type by name, or a definition that stands where the type is used. -/
inductive TypeRef where
  | named (name : QName)
  | complex (definition : ComplexType)
  | simple (definition : SimpleType)

/-- A simple type definition. -/
structure SimpleType where
  name : Option QName
  variety : SimpleVariety

/-- How a simple type is made from others. -/
inductive SimpleVariety where
  | restriction (base : TypeRef) (facets : Facets)
  | list (item : TypeRef)
  | union (members : List TypeRef)

/-- An element declaration; without a type its content is unconstrained. -/
structure ElementDecl where
  name : QName
  type : Option TypeRef
  nillable : Bool
  isAbstract : Bool
  default : Option String
  fixed : Option String

/-- An attribute declaration; without a type its value is unconstrained. -/
structure AttributeDecl where
  name : QName
  type : Option TypeRef
  default : Option String
  fixed : Option String

/-- An entry in the attribute list of a complex type or attribute group. -/
inductive AttributeItem where
  /-- A local declaration, or a reference to a global one when `byRef` is set. -/
  | use (declaration : AttributeDecl) (usage : AttributeUsage) (byRef : Bool)
  | groupRef (name : QName)

/-- What a complex type says about the content of its elements. -/
inductive ContentModel where
  | empty
  | simple (type : TypeRef)
  | particle (particle : Particle ElementDecl)

/-- A complex type definition. -/
structure ComplexType where
  identity : TypeId
  name : Option QName
  mixed : Bool
  isAbstract : Bool
  content : ContentModel
  base : Option (QName × DerivationMethod)
  attributes : List AttributeItem
  anyAttribute : Option Wildcard

end

/-- The declaration of an element about which nothing but its name is known. -/
def ElementDecl.untyped (name : QName) : ElementDecl :=
  { name, type := none, nillable := false, isAbstract := false, default := none, fixed := none }

/-- The type that allows any attributes, any children and text. -/
def ComplexType.anyType : ComplexType :=
  let wildcard : Wildcard := ⟨.any, .lax⟩
  { identity := .anyType, name := some (.schema "anyType"), mixed := true, isAbstract := false,
    content := .particle ⟨0, .unbounded, .wildcard wildcard⟩, base := none, attributes := [],
    anyAttribute := some wildcard }

/-- A named group of attributes. -/
structure AttributeGroup where
  attributes : List AttributeItem
  anyAttribute : Option Wildcard

/-- A global type definition. -/
inductive TypeDef where
  | complex (definition : ComplexType)
  | simple (definition : SimpleType)

/-- Components under their local names; of two entries with one name the later counts. -/
abbrev Table (α : Type) := List (String × α)

/-- The component with the given local name. -/
def Table.get? {α : Type} (table : Table α) (name : String) : Option α :=
  (table.find? (·.1 == name)).map Prod.snd

/-- Puts a component into a table, in place of one with the same name. -/
def Table.insert {α : Type} (table : Table α) (name : String) (component : α) : Table α :=
  (name, component) :: table.filter (·.1 != name)

/-- A compiled schema document. -/
structure SchemaDocument where
  targetNamespace : String
  identity : DocumentId
  location : Path
  elements : Table ElementDecl := []
  attributes : Table AttributeDecl := []
  types : Table TypeDef := []
  groups : Table (Particle ElementDecl) := []
  attributeGroups : Table AttributeGroup := []
  /-- Included documents, seen from this one. -/
  includes : List Path := []
  /-- Imported documents with their namespaces. -/
  imports : List (String × Path) := []

end XmlSchema

import XmlSchema.Component.Reader
import XmlSchema.Content.Model
import XmlSchema.Datatype.Basic

/-!
# Schema sets

A `SchemaSet` holds the schema documents that validation has met so far, in the order in which
they were added.  Components are looked up by qualified name: of several documents that define a
name, the first counts.  The documents are indexed by target namespace.
-/

namespace XmlSchema

/-! ## Effective types -/

/-- An attribute that elements of a type may have. -/
structure AttributeUse where
  declaration : AttributeDecl
  isRequired : Bool

/-- What the content of elements of a type may be. -/
inductive EffectiveContent where
  | empty
  | simple (type : TypeRef)
  | elements (model : CompiledModel)

/-- A complex type together with what it takes over from its bases. -/
structure EffectiveType where
  mixed : Bool
  isAbstract : Bool
  content : EffectiveContent
  attributes : List AttributeUse
  anyAttribute : Option Wildcard

/-! ## Sets -/

/-- A namespace with the location of a schema for it; the empty text means "no namespace". -/
structure Binding where
  namespaceName : String
  location : Path
  deriving DecidableEq, Repr

/-- Bindings of one namespace to the same file. -/
def Binding.Same (a b : Binding) : Prop :=
  a.namespaceName = b.namespaceName ∧ a.location.Same b.location

instance (a b : Binding) : Decidable (a.Same b) := inferInstanceAs (Decidable (_ ∧ _))

/-- Schema documents, and what is known about those still to be loaded. -/
structure SchemaSet where
  documents : Array SchemaDocument := #[]
  /-- For each target namespace the indices of its documents, in ascending order. -/
  byNamespace : List (String × List Nat) := []
  /-- The files that are not to be loaded again. -/
  loaded : List Path := []
  /-- Every binding that was ever added. -/
  registered : List Binding := []
  /-- The bindings that wait to be loaded. -/
  pending : List Binding := []
  /-- How many schemas inside instance documents were met. -/
  inlineCount : Nat := 0
  /-- The files that were asked for, in order. -/
  requests : List Path := []
  /-- Effective forms of complex types, as computed for the present documents. -/
  effectiveTypes : List (TypeId × EffectiveType) := []

namespace SchemaSet

/-- Whether there are no documents. -/
def isEmpty (s : SchemaSet) : Bool := s.documents.isEmpty

/-- Whether bindings wait to be loaded. -/
def hasPending (s : SchemaSet) : Bool := !s.pending.isEmpty

/-- The indices of the documents for a namespace. -/
def indices? (s : SchemaSet) (namespaceName : String) : Option (List Nat) :=
  (s.byNamespace.find? (·.1 == namespaceName)).map Prod.snd

/-- Whether some document targets the namespace. -/
def hasNamespace (s : SchemaSet) (namespaceName : String) : Bool :=
  (s.indices? namespaceName).isSome

/-! ## Looking up components -/

/-- The component that `pick` finds in the first document for the namespace that has one. -/
def find {α : Type} (s : SchemaSet) (namespaceName : String) (pick : SchemaDocument → Option α) :
    Option α :=
  ((s.indices? namespaceName).getD []).findSome? fun index => (s.documents[index]?).bind pick

/-- The global element with the given name. -/
def element? (s : SchemaSet) (name : QName) : Option ElementDecl :=
  s.find name.namespaceName fun d => Table.get? d.elements name.localName

/-- The global attribute with the given name. -/
def attribute? (s : SchemaSet) (name : QName) : Option AttributeDecl :=
  s.find name.namespaceName fun d => Table.get? d.attributes name.localName

/-- The attribute group with the given name. -/
def attributeGroup? (s : SchemaSet) (name : QName) : Option AttributeGroup :=
  s.find name.namespaceName fun d => Table.get? d.attributeGroups name.localName

/-- The global type with the given name. -/
def typeDef? (s : SchemaSet) (name : QName) : Option TypeDef :=
  s.find name.namespaceName fun d => Table.get? d.types name.localName

/-- The model group with the given name. -/
def group? (s : SchemaSet) (name : QName) : Option (Particle ElementDecl) :=
  s.find name.namespaceName fun d => Table.get? d.groups name.localName

/-- The global components that particles refer to. -/
def globals (s : SchemaSet) : Globals := ⟨s.element?, s.group?⟩

/-- The definition behind a type reference.  Names of the schema namespace mean built-in types. -/
def resolve (s : SchemaSet) : Resolver
  | .complex definition => some (.complex definition)
  | .simple definition => some (.simple definition)
  | .named name =>
    if name.namespaceName = schemaNamespace then
      if name.localName = "anyType" then some (.complex .anyType)
      else (Builtin.ofLocalName? name.localName).map .builtin
    else
      match s.typeDef? name with
      | some (.complex definition) => some (.complex definition)
      | some (.simple definition) => some (.simple definition)
      | none => none

end SchemaSet

end XmlSchema

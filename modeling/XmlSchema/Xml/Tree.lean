import XmlSchema.Name

/-!
# Element trees

The elements of a well-formed document, with their attributes and the namespaces in scope.
Character data, comments and processing instructions are left out: schema documents make no use of
them.
-/

namespace XmlSchema.Xml

/-- The namespaces in scope at an element: prefixes with the namespaces they stand for, the
default namespace under `none`. -/
abbrev NamespaceScope := List (Option String × String)

/-- An element of a document. -/
structure Element where
  name : QName
  attributes : List (QName × String)
  scope : NamespaceScope
  children : List Element
  /-- Where the element stands: its index among the children of its parent, followed by where the
  parent stands.  Nothing stands before the root. -/
  place : List Nat

namespace Element

mutual

/-- The tree with its places noted, when it stands at `place`. -/
def withPlaces (place : List Nat) : Element → Element
  | ⟨name, attributes, scope, children, _⟩ =>
    ⟨name, attributes, scope, withPlacesFrom place 0 children, place⟩

/-- Children of the element at `place` with their places noted, the first at the given index. -/
def withPlacesFrom (place : List Nat) (index : Nat) : List Element → List Element
  | [] => []
  | e :: es => withPlaces (index :: place) e :: withPlacesFrom place (index + 1) es

end

/-- The value of the attribute with the given name and no namespace. -/
def attribute? (e : Element) (name : String) : Option String :=
  (e.attributes.find? (·.1 == ⟨"", name⟩)).map Prod.snd

/-- The namespace that a prefix stands for at the element. -/
def lookupPrefix (e : Element) (pre : Option String) : Option String :=
  (e.scope.find? (·.1 == pre)).map Prod.snd

/-- The children that belong to the schema namespace. -/
def schemaChildren (e : Element) : List Element :=
  e.children.filter (·.name.namespaceName == schemaNamespace)

/-- The first child with the given name in the schema namespace. -/
def schemaChild? (e : Element) (name : String) : Option Element :=
  e.schemaChildren.find? (·.name.localName == name)

/-- The first child in the schema namespace with one of the given names. -/
def schemaChildAmong? (e : Element) (names : List String) : Option Element :=
  e.schemaChildren.find? (names.contains ·.name.localName)

end Element

end XmlSchema.Xml

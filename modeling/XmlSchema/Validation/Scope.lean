import XmlSchema.Name
import XmlSchema.Text.Offset
import XmlSchema.Xml.Event

/-!
# Namespace scopes

Every open element has a scope: the namespaces declared on its start tag.  Names are resolved in
the list of scopes, innermost first.  `redeclare` writes the declarations that are visible at an
element onto its start tag, so that the element can stand alone.
-/

namespace XmlSchema

open XmlSchema.Text

/-- The declarations on a start tag: prefixes with their namespaces, in order, the default
namespace under the empty prefix. -/
abbrev Scope := List (String × String)

namespace Scope

/-- The prefix that an attribute declares, if it is a declaration. -/
def declaredPrefix? (rawName : String) : Option String :=
  if rawName = "xmlns" then some ""
  else if "xmlns:".toList.isPrefixOf rawName.toList then
    some (String.ofList (rawName.toList.drop 6))
  else none

/-- The declarations among the attributes of a start tag. -/
def ofAttributes (attributes : List Xml.Attribute) : Scope :=
  attributes.filterMap fun a => (declaredPrefix? a.rawName).map (·, a.value)

/-- The namespace that a prefix stands for; the prefixes `xml` and `xmlns` cannot be declared. -/
def lookup (scopes : List Scope) (pre : String) : Option String :=
  if pre = "xml" then some xmlNamespace
  else if pre = "xmlns" then none
  else ((scopes.flatMap List.reverse).find? (·.1 == pre)).map Prod.snd

/-- The namespace of names without prefix. -/
def defaultNamespace (scopes : List Scope) : String := (lookup scopes "").getD ""

/-- The name of an element, or of a type in an attribute value; `none` when its prefix is not
declared. -/
def elementName? (scopes : List Scope) (raw : String) : Option QName :=
  match QName.splitPrefix raw with
  | (some pre, localName) => (lookup scopes pre).map (⟨·, localName⟩)
  | (none, localName) => some ⟨defaultNamespace scopes, localName⟩

/-- The name of an attribute; `none` when its prefix is not declared.  Attributes without prefix
have no namespace. -/
def attributeName? (scopes : List Scope) (raw : String) : Option QName :=
  match QName.splitPrefix raw with
  | (some pre, localName) => (lookup scopes pre).map (⟨·, localName⟩)
  | (none, localName) => some ⟨"", localName⟩

/-! ## Declaring namespaces again -/

/-- Adds a declaration unless its prefix is taken. -/
def addVisible (own visible : Scope) (declaration : String × String) : Scope :=
  if (own ++ visible).any (·.1 == declaration.1) then visible else visible ++ [declaration]

/-- The declarations of the outer scopes that the innermost scope does not replace. -/
def inherited : List Scope → Scope
  | [] => []
  | own :: outer => (outer.flatMap List.reverse).foldl (addVisible own) []

/-- The text with one character replaced wherever it stands. -/
def replaceChar (c : Char) (replacement : String) (cs : List Char) : List Char :=
  cs.flatMap fun d => if d = c then replacement.toList else [d]

/-- A text as an attribute value in double quotes.  The ampersand is replaced first, since what the
other characters are replaced by has one. -/
def escape (cs : List Char) : List Char :=
  replaceChar '<' "&lt;" (replaceChar '"' "&quot;" (replaceChar '&' "&amp;" cs))

/-- A declaration as an attribute, with a space before it. -/
def declarationText (declaration : String × String) : List Char :=
  let name := if declaration.1.isEmpty then " xmlns=\"".toList
    else " xmlns:".toList ++ declaration.1.toList ++ "=\"".toList
  name ++ escape declaration.2.toList ++ ['"']

/-- The text of an element with the visible declarations written behind the name in its start
tag. -/
def redeclare (scopes : List Scope) (rawName : String) (source : List Char) : List Char :=
  let split := min (1 + rawName.utf8ByteSize) (byteLength source)
  match takeBytes? split source, dropBytes? split source with
  | some start, some rest => start ++ (inherited scopes).flatMap declarationText ++ rest
  | _, _ => source

end Scope

end XmlSchema

import XmlSchema.Name
import XmlSchema.Pattern.Basic

/-!
# Properties of schema components

The parts of schema components that do not refer to other components: occurrence bounds,
wildcards, attribute usages, white space modes and facets.
-/

namespace XmlSchema

/-- How often a particle may occur at most. -/
inductive MaxOccurs where
  | bounded (count : Nat)
  | unbounded
  deriving DecidableEq, Repr

/-- The namespaces that a wildcard admits. -/
inductive NamespaceConstraint where
  | any
  /-- Every namespace but the given one and "no namespace". -/
  | other (target : String)
  | list (names : List String)
  deriving DecidableEq, Repr

/-- Whether a wildcard with this constraint matches names of the namespace. -/
def NamespaceConstraint.admits (c : NamespaceConstraint) (namespaceName : String) : Bool :=
  match c with
  | .any => true
  | .other target => !namespaceName.isEmpty && namespaceName != target
  | .list names => names.contains namespaceName

/-- What a wildcard asks of the declarations of what it matches. -/
inductive ProcessContents where
  | strict
  | lax
  | skip
  deriving DecidableEq, Repr

/-- A wildcard for elements or attributes. -/
structure Wildcard where
  namespaces : NamespaceConstraint
  process : ProcessContents
  deriving DecidableEq, Repr

/-- Whether an attribute may or must be present. -/
inductive AttributeUsage where
  | optional
  | required
  | prohibited
  deriving DecidableEq, Repr

/-- How a complex type is derived from its base. -/
inductive DerivationMethod where
  | extension
  | restriction
  deriving DecidableEq, Repr

/-- How white space in a value is treated before the value is checked. -/
inductive WhiteSpace where
  | preserve
  | replace
  | collapse
  deriving DecidableEq, Repr

/-- The constraining facets of one derivation step. -/
structure Facets where
  enumeration : List String := []
  /-- Alternatives: a value passes when it matches one of them. -/
  patterns : List Pattern := []
  length : Option Nat := none
  minLength : Option Nat := none
  maxLength : Option Nat := none
  minInclusive : Option String := none
  maxInclusive : Option String := none
  minExclusive : Option String := none
  maxExclusive : Option String := none
  totalDigits : Option Nat := none
  fractionDigits : Option Nat := none
  whiteSpace : Option WhiteSpace := none
  deriving DecidableEq

end XmlSchema

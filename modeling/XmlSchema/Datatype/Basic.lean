import XmlSchema.Component.Types
import XmlSchema.Datatype.Value

/-!
# Simple values

`checkValue` decides whether a text is a value of a type.  Types refer to each other by name, so
the functions of this file take a `Resolver` that finds the definition behind a reference.
References are followed to a depth of 32; deeper derivations, and references that lead nowhere,
constrain nothing.
-/

namespace XmlSchema

/-- The definition behind a type reference. -/
inductive ResolvedType where
  | builtin (type : Builtin)
  | simple (definition : SimpleType)
  | complex (definition : ComplexType)

/-- Finds the definition behind a type reference. -/
abbrev Resolver := TypeRef → Option ResolvedType

/-- How many derivation steps are looked at, counting the type itself. -/
def derivationLimit : Nat := 33

/-- What the values of a type are, looking at so many derivation steps. -/
def kindWithin (resolve : Resolver) : Nat → TypeRef → Option ValueKind
  | 0, _ => none
  | steps + 1, type =>
    match resolve type with
    | none => none
    | some (.builtin b) => some (if b.isList then .list else .atomic b)
    | some (.simple definition) =>
      match definition.variety with
      | .restriction base _ => kindWithin resolve steps base
      | .list _ => some .list
      | .union _ => some .union
    | some (.complex definition) =>
      match definition.content with
      | .simple inner => kindWithin resolve steps inner
      | _ => none

/-- How white space is treated in values of a type, looking at so many derivation steps. -/
def whiteSpaceWithin (resolve : Resolver) : Nat → TypeRef → WhiteSpace
  | 0, _ => .preserve
  | steps + 1, type =>
    match resolve type with
    | none => .preserve
    | some (.builtin b) => b.whiteSpace
    | some (.simple definition) =>
      match definition.variety with
      | .restriction base facets =>
        match facets.whiteSpace with
        | some mode => mode
        | none => whiteSpaceWithin resolve steps base
      | .list _ => .collapse
      | .union _ => .preserve
    | some (.complex definition) =>
      match definition.content with
      | .simple inner => whiteSpaceWithin resolve steps inner
      | _ => .preserve

/-- How white space is treated in values of a type. -/
def whiteSpaceOf (resolve : Resolver) (type : TypeRef) : WhiteSpace :=
  whiteSpaceWithin resolve derivationLimit type

/-- The label of a type, looking at so many derivation steps. -/
def labelWithin (resolve : Resolver) : Nat → TypeRef → String
  | _, .named name => name.text
  | 0, _ => "anySimpleType"
  | steps + 1, type =>
    match resolve type with
    | none => "anySimpleType"
    | some (.builtin b) => b.label
    | some (.simple definition) =>
      match definition.variety with
      | .restriction base _ => labelWithin resolve steps base
      | .list _ => "List"
      | .union _ => "Union"
    | some (.complex definition) =>
      match definition.content with
      | .simple inner => labelWithin resolve steps inner
      | _ => "anyType"

/-- How a type is called in messages: by its own name, or by that of its nearest named base. -/
def typeLabel (resolve : Resolver) (type : TypeRef) : String :=
  labelWithin resolve derivationLimit type

/-- Checks a text against a type, looking at so many derivation steps. -/
def checkWithin (resolve : Resolver) : Nat → TypeRef → String → Except ValueError Unit
  | 0, _, _ => .ok ()
  | steps + 1, type, raw =>
    match resolve type with
    | none => .ok ()
    | some (.builtin b) => b.check (b.whiteSpace.normalize raw)
    | some (.complex definition) =>
      match definition.content with
      | .simple inner => checkWithin resolve steps inner raw
      | _ => .ok ()
    | some (.simple definition) =>
      match definition.variety with
      | .restriction base facets => do
        let mode := facets.whiteSpace.getD (whiteSpaceWithin resolve steps base)
        let value := mode.normalize raw
        checkWithin resolve steps base value
        facets.check (kindWithin resolve steps base) value
      | .list item => (Text.splitWords raw).forM (checkWithin resolve steps item)
      | .union members =>
        if members.any fun member => (checkWithin resolve steps member raw).toBool then .ok ()
        else .error (.union raw)

/-- Checks a text against a type.  The error is that of the first constraint that fails. -/
def checkValue (resolve : Resolver) (type : TypeRef) (raw : String) : Except ValueError Unit :=
  checkWithin resolve derivationLimit type raw

end XmlSchema

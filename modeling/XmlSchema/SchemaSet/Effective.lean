import XmlSchema.SchemaSet.Basic

/-!
# Effective types

A complex type takes over attributes and, when it is an extension, content from its base.
`SchemaSet.flatten` puts the definitions along the chain of bases together; the chain is followed
for `baseDepth` steps.  `SchemaSet.effectiveType` remembers the result until a document is added.
-/

namespace XmlSchema

/-- How far chains of base types and nested attribute groups are followed. -/
def baseDepth : Nat := 32

namespace SchemaSet

/-! ## Attributes -/

/-- The attributes collected so far, with the attribute wildcard. -/
structure Collected where
  uses : List AttributeUse
  anyAttribute : Option Wildcard

/-- The declaration that an attribute use stands for.  A reference takes its type from the global
declaration, and its default and fixed values too unless it has its own. -/
def usedDeclaration (s : SchemaSet) (declaration : AttributeDecl) (byRef : Bool) : AttributeDecl :=
  match (if byRef then s.attribute? declaration.name else none) with
  | some shared =>
    { shared with
      default := declaration.default <|> shared.default
      fixed := declaration.fixed <|> shared.fixed }
  | none => declaration

/-- Takes in an attribute item; `group` takes in an attribute group.  A use replaces an earlier
one with the same name, and a prohibited use removes it. -/
def addItem (s : SchemaSet) (group : QName → Collected → Collected) (c : Collected)
    (item : AttributeItem) : Collected :=
  match item with
  | .groupRef name => group name c
  | .use declaration usage byRef =>
    let others := c.uses.filter (·.declaration.name != declaration.name)
    match usage with
    | .prohibited => { c with uses := others }
    | .required => { c with uses := others ++ [⟨s.usedDeclaration declaration byRef, true⟩] }
    | .optional => { c with uses := others ++ [⟨s.usedDeclaration declaration byRef, false⟩] }

/-- Takes in the attribute group with the given name, when groups may be nested so deep.  Its
wildcard counts when there is none yet. -/
def addGroup (s : SchemaSet) : Nat → QName → Collected → Collected
  | 0, _, c => c
  | levels + 1, name, c =>
    match s.attributeGroup? name with
    | none => c
    | some group =>
      group.attributes.foldl (s.addItem (s.addGroup levels))
        { c with anyAttribute := c.anyAttribute <|> group.anyAttribute }

/-- Takes in attribute items. -/
def addItems (s : SchemaSet) (items : List AttributeItem) (c : Collected) : Collected :=
  items.foldl (s.addItem (s.addGroup baseDepth)) c

/-! ## Content -/

/-- The particles of a type and of the types that it extends, that of the type first; at most so
many types are looked at. -/
def extensionChain (s : SchemaSet) : Nat → ComplexType → List (Particle ElementDecl)
  | 0, _ => []
  | steps + 1, type =>
    let own := match type.content with
      | .particle p => [p]
      | _ => []
    match type.base with
    | some (base, .extension) =>
      match s.typeDef? base with
      | some (.complex definition) => own ++ s.extensionChain steps definition
      | _ => own
    | _ => own

/-- The particle that a type takes over from the base it extends. -/
def baseParticle? (s : SchemaSet) (steps : Nat) (base : QName) (content : EffectiveContent) :
    Option (Particle ElementDecl) :=
  match s.typeDef? base, content with
  | some (.complex definition), .elements _ =>
    match (s.extensionChain steps definition).reverse with
    | [] => none
    | [p] => some p
    | ps => some (.once (.sequence ps))
  | _, _ => none

/-- The content of a type that extends `base`. -/
def extendedContent (own basePart : Option (Particle ElementDecl)) (base : EffectiveContent)
    (compileModel : Particle ElementDecl → CompiledModel) : EffectiveContent :=
  match basePart, own with
  | some b, some o => .elements (compileModel (.once (.sequence [b, o])))
  | some b, none => .elements (compileModel b)
  | none, some o => .elements (compileModel o)
  | none, none =>
    match base with
    | .simple type => .simple type
    | _ => .empty

/-- The base that a type is flattened with: the complex type that it names. -/
def flattenedBase? (s : SchemaSet) (type : ComplexType) :
    Option (QName × ComplexType × DerivationMethod) :=
  match type.base with
  | none => none
  | some (base, method) =>
    if base = .schema "anyType" then none
    else
      match s.resolve (.named base) with
      | some (.complex definition) => some (base, definition, method)
      | _ => none

/-- The content of a type without regard to its base. -/
def ownContent (s : SchemaSet) (type : ComplexType) : EffectiveContent :=
  match type.content with
  | .empty => .empty
  | .simple inner => .simple inner
  | .particle p => .elements (.ofParticle s.globals p)

/-- A type without regard to its base. -/
def withoutBase (s : SchemaSet) (type : ComplexType) : EffectiveType :=
  let c := s.addItems type.attributes ⟨[], type.anyAttribute⟩
  { mixed := type.mixed
    isAbstract := type.isAbstract
    content := s.ownContent type
    attributes := c.uses
    anyAttribute := c.anyAttribute }

/-- A type that restricts the type with the effective form `base`. -/
def restricted (s : SchemaSet) (type : ComplexType) (base : EffectiveType) : EffectiveType :=
  let c := s.addItems type.attributes ⟨base.attributes, type.anyAttribute⟩
  { s.withoutBase type with attributes := c.uses, anyAttribute := c.anyAttribute }

/-- A type that extends the type called `baseName`, with the effective form `base`; chains of
bases are followed for so many steps. -/
def extended (s : SchemaSet) (steps : Nat) (type : ComplexType) (baseName : QName)
    (base : EffectiveType) : EffectiveType :=
  let c := s.addItems type.attributes ⟨base.attributes, type.anyAttribute <|> base.anyAttribute⟩
  let content := match type.content with
    | .simple inner => .simple inner
    | .empty =>
      extendedContent none (s.baseParticle? steps baseName base.content) base.content
        (.ofParticle s.globals)
    | .particle p =>
      extendedContent (some p) (s.baseParticle? steps baseName base.content) base.content
        (.ofParticle s.globals)
  { mixed := type.mixed || base.mixed
    isAbstract := type.isAbstract
    content
    attributes := c.uses
    anyAttribute := c.anyAttribute }

/-- The effective form of a type, following its bases for so many steps. -/
def flattenWithin (s : SchemaSet) : Nat → ComplexType → EffectiveType
  | 0, type => s.withoutBase type
  | steps + 1, type =>
    match s.flattenedBase? type with
    | none => s.withoutBase type
    | some (_, base, .restriction) => s.restricted type (s.flattenWithin steps base)
    | some (name, base, .extension) =>
      s.extended (steps + 1) type name (s.flattenWithin steps base)

/-- The effective form of a type. -/
def flatten (s : SchemaSet) (type : ComplexType) : EffectiveType := s.flattenWithin baseDepth type

/-! ## Remembering -/

/-- The effective form of a complex type that the set was asked for, and the set with the answer
kept.  Types are told apart by their identities alone: many have no names, and definitions in
different documents may share one. -/
def effectiveType (s : SchemaSet) (type : ComplexType) : EffectiveType × SchemaSet :=
  match s.effectiveTypes.find? (·.1 == type.identity) with
  | some (_, known) => (known, s)
  | none =>
    let computed := s.flatten type
    (computed, { s with effectiveTypes := (type.identity, computed) :: s.effectiveTypes })

end SchemaSet

end XmlSchema

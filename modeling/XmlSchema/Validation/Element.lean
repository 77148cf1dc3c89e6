import XmlSchema.SchemaSet.Effective
import XmlSchema.Validation.Finding
import XmlSchema.Validation.Scope

/-!
# Judging elements

How an element is validated is its `Mode`.  `childContext` decides from the mode of the parent
what governs a child, and `elementMode` opens an element under a declaration: it settles the type,
checks the attributes and sets up the content model.  The functions of this file give remarks and
leave reporting them to the caller.
-/

namespace XmlSchema

/-! ## Attributes -/

/-- An attribute of an element, with its name resolved; declarations of namespaces have none. -/
structure NamedAttribute where
  name : Option QName
  value : String
  offset : Nat
  deriving DecidableEq, Repr

namespace NamedAttribute

/-- Whether the attribute is the given one of the instance namespace. -/
def isInstance (a : NamedAttribute) (localName : String) : Bool :=
  a.name == some ⟨instanceNamespace, localName⟩

/-- The name of an attribute that is subject to validation: declarations of namespaces and
attributes of the instance namespace are always allowed. -/
def checkedName? (a : NamedAttribute) : Option QName :=
  a.name.filter (·.namespaceName != instanceNamespace)

end NamedAttribute

/-- The names and attributes that are subject to validation. -/
def checkedAttributes (attributes : List NamedAttribute) : List (QName × NamedAttribute) :=
  attributes.filterMap fun a => a.checkedName?.map (·, a)

/-- Whether two texts are equal up to white space. -/
def sameCollapsed (a b : String) : Bool :=
  WhiteSpace.collapse.normalize a == WhiteSpace.collapse.normalize b

/-- Checks the value of an attribute against its declared type and fixed value. -/
def attributeValueRemarks (set : SchemaSet) (name : QName) (declaration : AttributeDecl)
    (a : NamedAttribute) : List Remark :=
  let type := declaration.type.getD (.named (.schema "anySimpleType"))
  match checkValue set.resolve type a.value with
  | .error e => [⟨.attributeValue name a.value (typeLabel set.resolve type) e, a.offset⟩]
  | .ok () =>
    if declaration.fixed.any (!sameCollapsed · a.value) then [⟨.attributeFixed name, a.offset⟩]
    else []

/-- Checks an attribute against the wildcard of a type. -/
def wildcardAttributeRemarks (set : SchemaSet) (wildcard : Option Wildcard) (name : QName)
    (a : NamedAttribute) : List Remark :=
  match wildcard.filter (·.namespaces.admits name.namespaceName) with
  | none => [⟨.undeclaredAttribute name, a.offset⟩]
  | some w =>
    if w.process = .skip then []
    else
      match set.attribute? name with
      | some declaration => attributeValueRemarks set name declaration a
      | none =>
        if w.process = .strict ∧ name.namespaceName ≠ xmlNamespace then
          [⟨.undeclaredAttribute name, a.offset⟩]
        else []

/-- Checks one attribute of an element of the given type. -/
def attributeRemarks (set : SchemaSet) (type : EffectiveType) (name : QName)
    (a : NamedAttribute) : List Remark :=
  match type.attributes.find? (·.declaration.name == name) with
  | some use => attributeValueRemarks set name use.declaration a
  | none => wildcardAttributeRemarks set type.anyAttribute name a

/-- The required attributes that are missing. -/
def missingAttributes (type : EffectiveType) (attributes : List NamedAttribute) : List QName :=
  let required := (type.attributes.filter (·.isRequired)).map (·.declaration.name)
  required.filter fun name => !attributes.any (·.name == some name)

/-- Checks the attributes of an element of the given type. -/
def attributesRemarks (set : SchemaSet) (type : EffectiveType)
    (attributes : List NamedAttribute) (nameOffset : Nat) : List Remark :=
  (checkedAttributes attributes).flatMap (fun (name, a) => attributeRemarks set type name a) ++
    (missingAttributes type attributes).map fun name => ⟨.missingAttribute name, nameOffset⟩

/-! ## Modes -/

/-- What an open element may contain. -/
inductive OpenContent where
  | empty
  | simple (type : TypeRef)
  | elements (matcher : ContentMatcher) (mixed : Bool)

/-- An open element that is validated against its declaration. -/
structure TypedElement where
  declaration : ElementDecl
  content : OpenContent
  /-- The element says that it is nil. -/
  isNil : Bool
  /-- The text of simple content so far. -/
  text : String

/-- How an open element is validated. -/
inductive Mode where
  /-- By no declaration; its children are looked up as global elements. -/
  | lax
  /-- Not at all, with everything in it. -/
  | skip
  | typed (element : TypedElement)

/-- What governs an element that opens. -/
inductive Context where
  | lax
  | skip
  | declared (declaration : ElementDecl)
  /-- A wildcard that asks for a global declaration. -/
  | strictWildcard
  /-- A wildcard that takes a global declaration if there is one. -/
  | laxWildcard

/-- What governs an element that a wildcard matches. -/
def ProcessContents.context : ProcessContents → Context
  | .strict => .strictWildcard
  | .lax => .laxWildcard
  | .skip => .skip

/-- What governs an element that a leaf matches. -/
def Leaf.context : Leaf → Context
  | .element declaration => .declared declaration
  | .wildcard w => w.process.context

/-- What governs a child of the element called `parent`, and the mode of the parent behind that
child; or why the parent cannot have the child. -/
def childContext (parent : QName) (mode : Mode) (child : QName) :
    Except Finding (Context × Mode) :=
  match mode with
  | .lax => .ok (.lax, mode)
  | .skip => .ok (.skip, mode)
  | .typed element =>
    if element.isNil then .error (.nilContent parent)
    else
      match element.content with
      | .empty => .error (.childOfEmpty parent child)
      | .simple _ => .error (.childOfSimple parent child)
      | .elements matcher mixed =>
        match matcher.step child with
        | (some leaf, matcher) =>
          .ok (leaf.context, .typed { element with content := .elements matcher mixed })
        | (none, matcher) => .error (.unexpectedChild parent child matcher.expectedSuffix)

/-! ## Opening elements -/

/-- An element that opens: its name, its attributes, the scopes it stands in and the offset of its
name. -/
structure OpeningElement where
  name : QName
  attributes : List NamedAttribute
  scopes : List Scope
  nameOffset : Nat

/-- The mode of an element that opens, with what is to be remarked. -/
abbrev Judgement := Mode × List Remark

namespace OpeningElement

/-- The attribute of the instance namespace with the given local name. -/
def instanceAttribute? (e : OpeningElement) (localName : String) : Option NamedAttribute :=
  e.attributes.find? (·.isInstance localName)

/-- The type of an element under a declaration: the declared one, unless the element names
another that exists. -/
def governingType (set : SchemaSet) (declaration : ElementDecl) (e : OpeningElement) :
    TypeRef × List Remark :=
  let declared := declaration.type.getD (.named (.schema "anyType"))
  match e.instanceAttribute? "type" with
  | none => (declared, [])
  | some a =>
    let named := (Scope.elementName? e.scopes (Text.trimString a.value)).map TypeRef.named
    match named.filter fun type => (set.resolve type).isSome with
    | some type => (type, [])
    | none => (declared, [⟨.invalidType (Text.trimString a.value), a.offset⟩])

/-- Whether an element says that it is nil and may be. -/
def isNil (declaration : ElementDecl) (e : OpeningElement) : Bool × List Remark :=
  match e.instanceAttribute? "nil" with
  | none => (false, [])
  | some a =>
    if ["true", "1"].contains (Text.trimString a.value) then
      if declaration.nillable then (true, []) else (false, [⟨.nilNotAllowed, a.offset⟩])
    else (false, [])

/-- What an element of the given type may contain. -/
def openContent (type : EffectiveType) : OpenContent :=
  match type.content with
  | .empty => .empty
  | .simple inner => .simple inner
  | .elements model => .elements (.ofModel model) type.mixed

/-- Opens an element under a declaration. -/
def judgeDeclared (set : SchemaSet) (declaration : ElementDecl) (e : OpeningElement) :
    Judgement × SchemaSet :=
  if declaration.isAbstract then ((.skip, [⟨.abstractElement e.name, e.nameOffset⟩]), set)
  else
    let (type, typeRemarks) := e.governingType set declaration
    let (isNil, nilRemarks) := e.isNil declaration
    let remarks := typeRemarks ++ nilRemarks
    let typed (content : OpenContent) : Mode := .typed ⟨declaration, content, isNil, ""⟩
    match set.resolve type with
    | none => ((.lax, remarks), set)
    | some (.complex definition) =>
      let (effective, set) := set.effectiveType definition
      if effective.isAbstract then
        ((.skip, remarks ++ [⟨.abstractElement e.name, e.nameOffset⟩]), set)
      else
        ((typed (openContent effective),
          remarks ++ attributesRemarks set effective e.attributes e.nameOffset), set)
    | some _ =>
      let undeclared := (checkedAttributes e.attributes).map fun (name, a) =>
        Remark.mk (.undeclaredAttribute name) a.offset
      ((typed (.simple type), remarks ++ undeclared), set)

/-- Opens an element that nothing governs.  When there are schemas, but none for its namespace, the
element and its attributes are unknown. -/
def judgeUndeclared (set : SchemaSet) (e : OpeningElement) : Judgement :=
  if set.isEmpty then (.lax, [])
  else if set.hasNamespace e.name.namespaceName then
    (.lax, [⟨.undeclaredElement e.name, e.nameOffset⟩])
  else
    (.lax, ⟨.unknownElement e.name, e.nameOffset⟩ ::
      (checkedAttributes e.attributes).map fun (name, a) => ⟨.unknownAttribute name, a.offset⟩)

/-- Opens an element in its context. -/
def judge (set : SchemaSet) (context : Context) (e : OpeningElement) : Judgement × SchemaSet :=
  match context with
  | .skip => ((.skip, []), set)
  | .declared declaration => e.judgeDeclared set declaration
  | .lax =>
    match set.element? e.name with
    | some declaration => e.judgeDeclared set declaration
    | none => (e.judgeUndeclared set, set)
  | .strictWildcard =>
    match set.element? e.name with
    | some declaration => e.judgeDeclared set declaration
    | none => ((.lax, [⟨.undeclaredElement e.name, e.nameOffset⟩]), set)
  | .laxWildcard =>
    match set.element? e.name with
    | some declaration => e.judgeDeclared set declaration
    | none => ((.lax, []), set)

end OpeningElement

/-! ## Text and end tags -/

/-- Takes in text that stands in an element. -/
def TypedElement.addText (element : TypedElement) (name : QName) (value : String) (offset : Nat) :
    TypedElement × List Remark :=
  let isBlank := Text.isBlankText value.toList
  if element.isNil then
    (element, if isBlank then [] else [⟨.nilContent name, offset⟩])
  else
    match element.content with
    | .simple _ => ({ element with text := element.text ++ value }, [])
    | .empty => (element, if isBlank then [] else [⟨.textInEmpty name, offset⟩])
    | .elements matcher mixed =>
      (element,
        if mixed || isBlank then [] else [⟨.textInElements name matcher.expectedSuffix, offset⟩])

/-- Checks the value of an element with simple content.  An element without text has its default
value. -/
def simpleContentRemarks (set : SchemaSet) (name : QName) (element : TypedElement)
    (type : TypeRef) (offset : Nat) : List Remark :=
  let value := if element.text.isEmpty then element.declaration.default.getD "" else element.text
  match checkValue set.resolve type value with
  | .error e => [⟨.elementValue name value (typeLabel set.resolve type) e, offset⟩]
  | .ok () =>
    if !element.text.isEmpty && element.declaration.fixed.any (!sameCollapsed · value) then
      [⟨.elementFixed name, offset⟩]
    else []

/-- Checks an element at its end. -/
def TypedElement.closingRemarks (set : SchemaSet) (name : QName) (element : TypedElement)
    (offset : Nat) : List Remark :=
  if element.isNil then []
  else
    match element.content with
    | .empty => []
    | .simple type => simpleContentRemarks set name element type offset
    | .elements matcher _ =>
      if matcher.isComplete then [] else [⟨.incomplete name matcher.expectedSuffix, offset⟩]

end XmlSchema

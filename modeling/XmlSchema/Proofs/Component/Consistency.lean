import XmlSchema.Proofs.Component.Naming
import XmlSchema.Proofs.Component.Parts

/-!
# Consistency of schema documents

Every part of a compiled document has been read from some element of its tree
(`SchemaContext.ReadIn`): the components at the top are, and each function of the reader says so of
the parts of its result (`SchemaContext.ReadIn.part`).  What reading an element guarantees therefore
holds of all parts: bounds are in order, and a local declaration has the namespace that its form
asks for.  With the names of the global components this makes a document consistent
(`SchemaDocument.consistent_of_read`).
-/

namespace XmlSchema

/-- The bounds of a particle are in order. -/
def Particle.Ordered {α : Type} (p : Particle α) : Prop :=
  ∀ max, p.max = .bounded max → p.min ≤ max

/-! ## Elements of the tree -/

/-- The schema elements inside an element, at any depth. -/
inductive Xml.Element.Within (root : Xml.Element) : Xml.Element → Prop where
  | self : Within root root
  | child {e e' : Xml.Element} (h : Within root e) (mem : e' ∈ e.schemaChildren) : Within root e'

/-- The element stands inside the root, and is not the root itself. -/
def Xml.Element.Inside (root e : Xml.Element) : Prop :=
  ∃ parent, root.Within parent ∧ e ∈ parent.schemaChildren

namespace Xml.Element

theorem Inside.within {root e : Element} (h : root.Inside e) : root.Within e := by
  obtain ⟨parent, within, mem⟩ := h
  exact within.child mem

theorem Within.inside {root e child : Element} (h : root.Within e)
    (mem : child ∈ e.schemaChildren) : root.Inside child :=
  ⟨e, h, mem⟩

theorem mem_of_schemaChild? {e child : Element} {name : String}
    (h : e.schemaChild? name = some child) : child ∈ e.schemaChildren :=
  List.mem_of_find?_eq_some h

theorem mem_of_schemaChildAmong? {e child : Element} {names : List String}
    (h : e.schemaChildAmong? names = some child) : child ∈ e.schemaChildren :=
  List.mem_of_find?_eq_some h

theorem namespaceName_of_mem_schemaChildren {e child : Element} (h : child ∈ e.schemaChildren) :
    child.name.namespaceName = schemaNamespace := by
  simpa using (List.mem_filter.1 h).2

theorem Within.namespaceName {root e : Element} (h : root.Within e)
    (schema : root.name.namespaceName = schemaNamespace) :
    e.name.namespaceName = schemaNamespace := by
  cases h with
  | self => exact schema
  | child _ mem => exact namespaceName_of_mem_schemaChildren mem

/-- A local declaration belongs to the target namespace: its form says so, or it has none and the
default of the document, which is the attribute `formDefault` of the root, says so. -/
def Qualified (root : Element) (formDefault : String) (e : Element) : Prop :=
  e.attribute? "form" = some "qualified" ∨
    e.attribute? "form" = none ∧ root.attribute? formDefault = some "qualified"

/-- The element `e` of the document is a local declaration that gives its component `name`; `kind`
says what it declares. -/
structure DeclaresLocally (root : Element) (kind formDefault : String) (e : Element)
    (name : QName) : Prop where
  within : root.Within e
  kind : e.name = .schema kind
  ref : e.attribute? "ref" = none
  localName : e.attribute? "name" = some name.localName
  qualified : root.Qualified formDefault e →
    name.namespaceName = (root.attribute? "targetNamespace").getD ""
  unqualified : ¬ root.Qualified formDefault e → name.namespaceName = ""

end Xml.Element

/-! ## Types without complex definitions -/

/-- The type is named, or a simple definition made from such types. -/
inductive TypeRef.Simple : TypeRef → Prop where
  | named (name : QName) : Simple (.named name)
  | restriction {name : Option QName} {base : TypeRef} {facets : Facets} (h : Simple base) :
      Simple (.simple ⟨name, .restriction base facets⟩)
  | list {name : Option QName} {item : TypeRef} (h : Simple item) :
      Simple (.simple ⟨name, .list item⟩)
  | union {name : Option QName} {members : List TypeRef} (h : ∀ m ∈ members, Simple m) :
      Simple (.simple ⟨name, .union members⟩)

namespace SchemaContext

variable (c : SchemaContext)

theorem ensures_simpleType_simple (depth : Nat) (localName : Option String) (e : Xml.Element) :
    Ensures (fun t => (TypeRef.simple t).Simple) (c.simpleType depth localName e) := by
  induction depth generalizing localName e with
  | zero => exact ensures_error _
  | succ depth ih =>
    unfold simpleType
    extract_lets name component
    have component_simple (part : Xml.Element) (attributeName : String) :
        Ensures TypeRef.Simple (component part attributeName) := by
      refine ensures_bind fun named => ?_
      split
      · exact ensures_ok (.named _)
      · split
        · exact (ih none _).bind fun t simple => ensures_ok simple
        · exact ensures_ok (.named _)
    split
    · exact (component_simple _ _).bind fun base simple => ensures_bind fun facets =>
        ensures_ok (.restriction simple)
    · split
      · exact (component_simple _ _).bind fun item simple => ensures_ok (.list simple)
      · split
        · refine (ensures_mapM _).bind fun named hnamed => (ensures_mapM _).bind fun inner hinner =>
            ensures_ok (.union fun m mem => ?_)
          rcases List.mem_append.1 mem with mem | mem
          · obtain ⟨member, -, read⟩ := hnamed m mem
            exact (ensures_self _).map (fun name _ => .named name) m read
          · obtain ⟨part, -, read⟩ := hinner m mem
            exact (ih none part).map (fun _ simple => simple) m read
        · exact ensures_error _

/-! ## Attributes -/

theorem attribute?_eq_none {e : Xml.Element} {name : String}
    (h : attributeName? e name = .ok none) : e.attribute? name = none := by
  unfold attributeName? at h
  split at h
  · assumption
  · rename_i value _
    cases eq : qualifiedName e value <;> rw [eq] at h <;> cases h

theorem ensures_requiredName (e : Xml.Element) :
    Ensures (fun name => e.attribute? "name" = some name) (requiredName e) := by
  unfold requiredName
  split
  · rename_i name h
    exact ensures_ok h
  · exact ensures_error _

/-- An attribute declaration has the name and the namespace that its element says, and a simple
type. -/
theorem ensures_attributeDecl_parts (depth : Nat) (isGlobal : Bool) (e : Xml.Element) :
    Ensures (fun d => e.attribute? "name" = some d.name.localName ∧
        d.name.namespaceName = c.declarationNamespace isGlobal c.qualifiedAttributes e ∧
        ∀ t, d.type = some t → t.Simple) (c.attributeDecl depth isGlobal e) := by
  unfold attributeDecl
  refine (ensures_requiredName e).bind fun localName hname => ensures_bind fun named => ?_
  dsimp only
  split
  · refine ensures_ok ⟨hname, rfl, ?_⟩
    rintro _ ⟨⟩
    exact .named _
  · split
    · rename_i inner _
      refine ((c.ensures_simpleType_simple depth none inner).map
        (Q := fun type => ∀ t, type = some t → t.Simple) ?_).bind
        fun type simple => ensures_ok ⟨hname, rfl, simple⟩
      rintro definition simple _ ⟨⟩
      exact simple
    · exact ensures_ok ⟨hname, rfl, by simp⟩

/-- A use that is no reference is a local declaration. -/
theorem ensures_attributeUse (depth : Nat) (e : Xml.Element) :
    Ensures (fun i => ∀ d usage byRef, i = .use d usage byRef →
        (∀ t, d.type = some t → t.Simple) ∧
        (byRef = false → e.attribute? "ref" = none ∧ c.attributeDecl depth false e = .ok d))
      (c.attributeUse depth e) := by
  unfold attributeUse
  dsimp only
  refine (ensures_self _).bind fun ref href => ?_
  split
  · refine ensures_ok ?_
    rintro d usage byRef ⟨⟩
    exact ⟨by simp, by simp⟩
  · refine (ensures_self _).bind fun decl read => ensures_ok ?_
    rintro d usage byRef ⟨⟩
    exact ⟨(c.ensures_attributeDecl_parts depth false e decl read).2.2,
      fun _ => ⟨attribute?_eq_none href, read⟩⟩

/-! ## Occurrence bounds -/

/-- Bounds that are read are in order. -/
theorem ensures_occurs (e : Xml.Element) :
    Ensures (fun bounds => ∀ max, bounds.2 = .bounded max → bounds.1 ≤ max) (occurs e) := by
  unfold occurs
  extract_lets upper
  have ordered (min : Nat) :
      Ensures (fun bounds => ∀ max, bounds.2 = .bounded max → bounds.1 ≤ max) (upper min) := by
    unfold upper
    split
    · split
      · exact ensures_error _
      · refine ensures_ok ?_
        rintro _ ⟨⟩
        omega
    · exact ensures_ok (by simp)
    · split
      · split
        · exact ensures_error _
        · refine ensures_ok ?_
          rintro _ ⟨⟩
          omega
      · exact ensures_error _
  split
  · exact ensures_bind ordered
  · split <;> exact ensures_bind ordered

/-! ## Where parts come from -/

/-- The part has been read, at some depth, from an element inside the root.  Of attributes and of
simple types only that they hold no complex definition is kept: no particles and no local
declarations lie in them. -/
inductive ReadIn (c : SchemaContext) (root : Xml.Element) : Part → Prop where
  | elementDecl {depth : Nat} {isGlobal : Bool} {e : Xml.Element} {d : ElementDecl}
      (inside : root.Inside e) (read : c.elementDecl depth isGlobal e = .ok d) :
      ReadIn c root (.element d)
  | attributeDecl {d : AttributeDecl} (simple : ∀ t, d.type = some t → t.Simple) :
      ReadIn c root (.attribute d)
  | attributeUse {depth : Nat} {e : Xml.Element} {i : AttributeItem} (within : root.Within e)
      (name : e.name.localName = "attribute") (read : c.attributeUse depth e = .ok i) :
      ReadIn c root (.attributeItem i)
  | attributeGroupRef (name : QName) : ReadIn c root (.attributeItem (.groupRef name))
  | particle {depth : Nat} {e : Xml.Element} {p : Particle ElementDecl} (inside : root.Inside e)
      (read : c.particle depth e = .ok (some p)) : ReadIn c root (.particle p)
  | modelGroup {depth : Nat} {e : Xml.Element} {p : Particle ElementDecl} (inside : root.Inside e)
      (read : c.modelGroup depth e = .ok p) : ReadIn c root (.particle p)
  | emptySequence : ReadIn c root (.particle .emptySequence)
  | globalType {depth : Nat} {name : String} {e : Xml.Element} {t : ComplexType}
      (child : e ∈ root.schemaChildren) (named : e.attribute? "name" = some name)
      (read : c.complexType depth (some name) e = .ok t) : ReadIn c root (.complexType t)
  | localType {depth : Nat} {parent e : Xml.Element} {t : ComplexType}
      (inside : root.Inside parent) (mem : e ∈ parent.schemaChildren)
      (read : c.complexType depth none e = .ok t) : ReadIn c root (.complexType t)
  | complexRef {t : ComplexType} (read : ReadIn c root (.complexType t)) :
      ReadIn c root (.type (.complex t))
  | simpleRef {t : TypeRef} (simple : t.Simple) : ReadIn c root (.type t)
  | simpleType {t : SimpleType} (simple : (TypeRef.simple t).Simple) : ReadIn c root (.simpleType t)

variable {c} {root e : Xml.Element}

theorem ensures_attributeItems (depth : Nat) (within : root.Within e) :
    Ensures (fun group => ∀ i ∈ group.attributes, c.ReadIn root (.attributeItem i))
      (c.attributeItems depth e) := by
  unfold attributeItems
  refine ensures_foldlM_mem (fun group child mem known => ?_) _ (by simp)
  have added {i : AttributeItem} (read : c.ReadIn root (.attributeItem i)) :
      ∀ i' ∈ group.attributes ++ [i], c.ReadIn root (.attributeItem i') := by
    intro i' hi'
    rcases List.mem_append.1 hi' with mem | mem
    · exact known i' mem
    · rwa [List.mem_singleton.1 mem]
  unfold addAttributeItem
  split
  · rename_i name
    exact (ensures_self _).bind fun i read =>
      ensures_ok (added (.attributeUse (within.child mem) name read))
  · refine ensures_bind fun ref => ?_
    split
    · exact ensures_ok (added (.attributeGroupRef _))
    · exact ensures_ok known
  · exact ensures_ok known
  · exact ensures_ok known

/-- An element declaration has the name and the namespace that its element says, and its type has
been read. -/
theorem ensures_elementDecl_parts (depth : Nat) (isGlobal : Bool) (inside : root.Inside e) :
    Ensures (fun d => e.attribute? "name" = some d.name.localName ∧
        d.name.namespaceName = c.declarationNamespace isGlobal c.qualifiedElements e ∧
        ∀ t, d.type = some t → c.ReadIn root (.type t)) (c.elementDecl depth isGlobal e) := by
  cases depth with
  | zero => exact ensures_error _
  | succ depth =>
    unfold elementDecl
    refine (ensures_requiredName e).bind fun localName hname => ensures_bind fun named => ?_
    dsimp only
    split
    · refine ensures_ok ⟨hname, rfl, ?_⟩
      rintro _ ⟨⟩
      exact .simpleRef (.named _)
    · split
      · rename_i inner child
        refine ((ensures_self (c.complexType depth none inner)).map
          (Q := fun type => ∀ t, type = some t → c.ReadIn root (.type t)) ?_).bind
          fun type read => ensures_ok ⟨hname, rfl, read⟩
        rintro definition read _ ⟨⟩
        exact .complexRef (.localType inside (Xml.Element.mem_of_schemaChild? child) read)
      · rename_i inner _ child
        refine ((c.ensures_simpleType_simple depth none inner).map
          (Q := fun type => ∀ t, type = some t → c.ReadIn root (.type t)) ?_).bind
          fun type read => ensures_ok ⟨hname, rfl, read⟩
        rintro definition simple _ ⟨⟩
        exact .simpleRef simple
      · exact ensures_ok ⟨hname, rfl, by simp⟩

/-- What is known of a particle that has been read from `e`. -/
structure ParticleOf (c : SchemaContext) (root e : Xml.Element) (p : Particle ElementDecl) :
    Prop where
  ordered : p.Ordered
  /-- A declaration in a particle is a local one, and no reference. -/
  declaration : ∀ d, p.term.declaration? = some d → e.name.localName = "element" ∧
    e.attribute? "ref" = none ∧ ∃ depth, c.elementDecl depth false e = .ok d
  items : ∀ q ∈ p.term.members, c.ReadIn root (.particle q)

theorem ensures_modelGroup (depth : Nat) (inside : root.Inside e) :
    Ensures (c.ParticleOf root e) (c.modelGroup depth e) := by
  cases depth with
  | zero => exact ensures_error _
  | succ depth =>
    unfold modelGroup
    refine (ensures_occurs e).bind fun bounds ordered => ?_
    dsimp only
    refine (ensures_mapM _).bind fun items hitems => ?_
    have members : ∀ q ∈ items.filterMap id, c.ReadIn root (.particle q) := by
      intro q hq
      obtain ⟨_, mem, rfl⟩ := List.mem_filterMap.1 hq
      obtain ⟨child, mem, read⟩ := hitems _ mem
      exact .particle (inside.within.inside mem) read
    split <;> exact ensures_ok ⟨ordered, by simp [Term.declaration?], members⟩

theorem ensures_particle (depth : Nat) (inside : root.Inside e) :
    Ensures (fun r => ∀ p, r = some p → c.ParticleOf root e p) (c.particle depth e) := by
  cases depth with
  | zero => exact ensures_error _
  | succ depth =>
    unfold particle
    refine (ensures_occurs e).bind fun bounds ordered => ?_
    -- references and wildcards have no parts
    have leaf (term : Term ElementDecl) (items : term.members = [])
        (declaration : term.declaration? = none) :
        ∀ p, some (Particle.mk bounds.1 bounds.2 term) = some p → c.ParticleOf root e p := by
      rintro p ⟨⟩
      exact ⟨ordered, by simp [declaration], by simp [items]⟩
    have group : Ensures (fun r => ∀ p, r = some p → c.ParticleOf root e p)
        (do return some (← c.modelGroup depth e)) := by
      refine (ensures_modelGroup depth inside).bind fun p known => ensures_ok ?_
      rintro _ ⟨⟩
      exact known
    dsimp only
    split
    · rename_i name
      refine (ensures_self _).bind fun ref href => ?_
      split
      · exact ensures_ok (leaf _ rfl rfl)
      · refine (ensures_self _).bind fun decl read => ensures_ok ?_
        rintro p ⟨⟩
        refine ⟨ordered, ?_, by simp [Term.members]⟩
        rintro d ⟨⟩
        exact ⟨name, attribute?_eq_none href, depth, read⟩
    · exact ensures_ok (leaf _ rfl rfl)
    · refine ensures_bind fun ref => ?_
      split
      · exact ensures_ok (leaf _ rfl rfl)
      · exact ensures_ok (by simp)
    · exact group
    · exact group
    · exact group
    · exact ensures_ok (by simp)

/-- What is known of a complex type that has been read. -/
structure ComplexTypeOf (c : SchemaContext) (root : Xml.Element) (t : ComplexType) : Prop where
  particle : ∀ p, t.content = .particle p → c.ReadIn root (.particle p)
  simple : ∀ r, t.content = .simple r → r.Simple
  attributes : ∀ i ∈ t.attributes, c.ReadIn root (.attributeItem i)

theorem ensures_simpleContent_parts (depth : Nat) (type : ComplexType) (within : root.Within e) :
    Ensures (c.ComplexTypeOf root) (c.simpleContent depth type e) := by
  unfold simpleContent
  refine ensures_bind fun base => ?_
  extract_lets method withItems withFacets
  have whole (content : TypeRef) (simple : content.Simple) :
      Ensures (c.ComplexTypeOf root) (withItems content) := by
    refine (ensures_attributeItems depth within).bind fun items read => ensures_ok ?_
    refine ⟨by simp, ?_, read⟩
    rintro _ ⟨⟩
    exact simple
  have restricted (base : TypeRef) (simple : base.Simple) :
      Ensures (c.ComplexTypeOf root) (withFacets base) :=
    ensures_bind fun facets => whole _ (.restriction simple)
  clear_value withItems withFacets method
  cases method with
  | extension => exact whole _ (.named base)
  | restriction =>
    dsimp only
    split
    · exact ((c.ensures_simpleType_simple depth none _).map fun _ simple => simple).bind restricted
    · exact restricted _ (.named base)

theorem ensures_complexContent_parts (depth : Nat) (type : ComplexType) (within : root.Within e) :
    Ensures (c.ComplexTypeOf root) (c.complexContent depth type e) := by
  cases depth with
  | zero => exact ensures_error _
  | succ depth =>
    unfold complexContent
    extract_lets withOwn
    have whole (own : Option (Particle ElementDecl))
        (read : ∀ p, own = some p → c.ReadIn root (.particle p)) :
        Ensures (c.ComplexTypeOf root) (withOwn own) := by
      refine (ensures_attributeItems depth within).bind fun items hitems => ensures_ok ?_
      cases own with
      | some p =>
        refine ⟨?_, by simp, hitems⟩
        rintro _ ⟨⟩
        exact read p rfl
      | none =>
        dsimp only
        split
        · refine ⟨?_, by simp, hitems⟩
          rintro _ ⟨⟩
          exact .emptySequence
        · exact ⟨by simp, by simp, hitems⟩
    split
    · rename_i group child
      have inside := within.inside (Xml.Element.mem_of_schemaChildAmong? child)
      refine (ensures_self _).bind fun own read => whole own ?_
      rintro p rfl
      exact .particle inside read
    · exact whole none (by simp)

theorem ensures_complexType_parts (depth : Nat) (name : Option String) (within : root.Within e) :
    Ensures (c.ComplexTypeOf root) (c.complexType depth name e) := by
  cases depth with
  | zero => exact ensures_error _
  | succ depth =>
    unfold complexType
    dsimp only
    split
    · rename_i child
      have within := within.child (Xml.Element.mem_of_schemaChild? child)
      split
      · rename_i grandchild
        exact ensures_simpleContent_parts depth _
          (within.child (Xml.Element.mem_of_schemaChildAmong? grandchild))
      · exact ensures_error _
    · rename_i child
      have within := within.child (Xml.Element.mem_of_schemaChild? child)
      split
      · exact ensures_error _
      · rename_i grandchild
        exact ensures_bind fun base => ensures_complexContent_parts depth _
          (within.child (Xml.Element.mem_of_schemaChildAmong? grandchild))
    · exact ensures_complexContent_parts depth _ within

/-! ## Every part has been read -/

theorem ReadIn.particleOf {p : Particle ElementDecl} (h : c.ReadIn root (.particle p)) :
    p = .emptySequence ∨ ∃ e, root.Inside e ∧ c.ParticleOf root e p := by
  cases h with
  | particle inside read => exact .inr ⟨_, inside, ensures_particle _ inside _ read p rfl⟩
  | modelGroup inside read => exact .inr ⟨_, inside, ensures_modelGroup _ inside p read⟩
  | emptySequence => exact .inl rfl

theorem ReadIn.complexTypeOf {t : ComplexType} (h : c.ReadIn root (.complexType t)) :
    c.ComplexTypeOf root t := by
  cases h with
  | globalType child named read => exact ensures_complexType_parts _ _ (.child .self child) t read
  | localType inside mem read => exact ensures_complexType_parts _ _ (inside.within.child mem) t read

/-- The parts of what has been read have been read, too. -/
theorem ReadIn.part {a b : Part} (h : c.ReadIn root a) (has : a.Has b) : c.ReadIn root b := by
  cases has with
  | elementType type =>
    cases h with
    | elementDecl inside read => exact (ensures_elementDecl_parts _ _ inside _ read).2.2 _ type
  | attributeType type =>
    cases h with
    | attributeDecl simple => exact .simpleRef (simple _ type)
  | use d usage byRef =>
    cases h with
    | attributeUse within name read =>
      exact .attributeDecl (c.ensures_attributeUse _ _ _ read d usage byRef rfl).1
  | declaration term =>
    obtain rfl | ⟨e, inside, known⟩ := h.particleOf
    · cases term
    · obtain ⟨-, -, depth, read⟩ := known.declaration _ term
      exact .elementDecl inside read
  | item mem =>
    obtain rfl | ⟨e, -, known⟩ := h.particleOf
    · cases mem
    · exact known.items _ mem
  | complexDefinition t =>
    cases h with
    | complexRef read => exact read
    -- no complex definition is simple
    | simpleRef simple => cases simple
  | simpleDefinition t =>
    cases h with
    | simpleRef simple => exact .simpleType simple
  | content h' => exact h.complexTypeOf.particle _ h'
  | simpleContent h' => exact .simpleRef (h.complexTypeOf.simple _ h')
  | attributeItem mem => exact h.complexTypeOf.attributes _ mem
  | base variety =>
    cases h with
    | simpleType simple =>
      cases simple with
      | restriction base =>
        cases variety
        exact .simpleRef base
      | list | union => cases variety
  | listItem variety =>
    cases h with
    | simpleType simple =>
      cases simple with
      | list item =>
        cases variety
        exact .simpleRef item
      | restriction | union => cases variety
  | member variety mem =>
    cases h with
    | simpleType simple =>
      cases simple with
      | union members =>
        cases variety
        exact .simpleRef (members _ mem)
      | restriction | list => cases variety

end SchemaContext

/-! ## Documents -/

namespace SchemaDocument

variable {c : SchemaContext} {root : Xml.Element} {d : SchemaDocument}

/-- The global components of the document have been read. -/
structure ReadIn (c : SchemaContext) (root : Xml.Element) (d : SchemaDocument) : Prop where
  elements : ∀ entry ∈ d.elements, c.ReadIn root (.element entry.2)
  attributes : ∀ entry ∈ d.attributes, c.ReadIn root (.attribute entry.2)
  types : ∀ entry ∈ d.types, c.ReadIn root (.type entry.2.toRef)
  groups : ∀ entry ∈ d.groups, c.ReadIn root (.particle entry.2)
  attributeGroups : ∀ entry ∈ d.attributeGroups, ∀ i ∈ entry.2.attributes,
    c.ReadIn root (.attributeItem i)

theorem ensures_addComponent_readIn (depth : Nat) {e : Xml.Element} (child : e ∈ root.schemaChildren)
    (h : d.ReadIn c root) : Ensures (ReadIn c root) (c.addComponent depth d e) := by
  obtain ⟨elements, attributes, types, groups, attributeGroups⟩ := h
  have inside := Xml.Element.Within.self.inside child
  unfold SchemaContext.addComponent
  split
  case h_1 =>
    refine (ensures_self _).bind fun decl read => ensures_ok ?_
    exact ⟨Table.forall_mem_insert elements (.elementDecl inside read), attributes, types, groups,
      attributeGroups⟩
  case h_2 =>
    refine (c.ensures_attributeDecl_parts depth true e).bind fun decl known => ensures_ok ?_
    exact ⟨elements, Table.forall_mem_insert attributes (.attributeDecl known.2.2), types, groups,
      attributeGroups⟩
  case h_3 =>
    refine (SchemaContext.ensures_requiredName e).bind fun name named =>
      (ensures_self _).bind fun type read => ensures_ok ?_
    have known := (SchemaContext.ReadIn.globalType child named read).complexRef
    exact ⟨elements, attributes, Table.forall_mem_insert types known, groups, attributeGroups⟩
  case h_4 =>
    refine ensures_bind fun name => ?_
    refine (c.ensures_simpleType_simple depth (some name) e).bind fun type simple => ensures_ok ?_
    exact ⟨elements, attributes, Table.forall_mem_insert types (.simpleRef simple), groups,
      attributeGroups⟩
  case h_5 =>
    refine ensures_bind fun name => ?_
    extract_lets withGroup
    have filed (p : Particle ElementDecl) (read : c.ReadIn root (.particle p)) :
        Ensures (ReadIn c root) (withGroup p) :=
      ensures_ok ⟨elements, attributes, types, Table.forall_mem_insert groups read, attributeGroups⟩
    split
    · rename_i group
      have inside := inside.within.inside (Xml.Element.mem_of_schemaChildAmong? group)
      exact (ensures_self _).bind fun p read => filed p (.modelGroup inside read)
    · exact filed _ .emptySequence
  case h_6 =>
    refine ensures_bind fun name => ?_
    refine (SchemaContext.ensures_attributeItems depth inside.within).bind fun group read =>
      ensures_ok ?_
    exact ⟨elements, attributes, types, groups, Table.forall_mem_insert attributeGroups read⟩
  all_goals exact ensures_ok ⟨elements, attributes, types, groups, attributeGroups⟩

/-- All that a document contains has been read. -/
theorem ReadIn.of_contains {part : Part} (h : d.ReadIn c root) (contains : d.Contains part) :
    c.ReadIn root part := by
  induction contains with
  | globalElement mem => exact h.elements _ mem
  | globalAttribute mem => exact h.attributes _ mem
  | type mem => exact h.types _ mem
  | group mem => exact h.groups _ mem
  | attributeItem mem mem' => exact h.attributeGroups _ mem _ mem'
  | part _ has ih => exact ih.part has

/-- What a document contains that has been compiled has been read inside its root. -/
theorem ensures_ofElement_readIn (identity : DocumentId) (root : Xml.Element) (path : Path) :
    Ensures (fun d => root.name = .schema "schema" ∧ d.ReadIn (contextOf identity root) root)
      (ofElement identity root path) := by
  unfold ofElement
  split
  · rename_i schema
    intro d read
    refine ⟨schema,
      ensures_foldlM_mem (fun d e mem => ensures_addComponent_readIn _ mem) _ ?_ d read⟩
    exact ⟨by simp, by simp, by simp, by simp, by simp⟩
  · exact ensures_error _

/-- An element whose component has the namespace of a local declaration declares it locally. -/
theorem declaresLocally {identity : DocumentId} {e : Xml.Element} {kind formDefault : String}
    {name : QName} (schema : root.name = .schema "schema") (within : root.Within e)
    (hkind : e.name.localName = kind) (ref : e.attribute? "ref" = none)
    (localName : e.attribute? "name" = some name.localName)
    (namespaceName : name.namespaceName = (contextOf identity root).declarationNamespace false
      (root.attribute? formDefault == some "qualified") e) :
    root.DeclaresLocally kind formDefault e name := by
  have inSchema : e.name.namespaceName = schemaNamespace :=
    within.namespaceName (congrArg QName.namespaceName schema)
  refine ⟨within, ?_, ref, localName, ?_, ?_⟩
  · rw [← hkind, QName.schema, ← inSchema]
  · rintro (form | ⟨form, default⟩)
    · simp [namespaceName, SchemaContext.declarationNamespace, form, contextOf]
    · simp [namespaceName, SchemaContext.declarationNamespace, form, default, contextOf]
  · intro unqualified
    rw [namespaceName, SchemaContext.declarationNamespace]
    cases form : e.attribute? "form" <;> simp_all [Xml.Element.Qualified]

/-- A document that has been compiled is consistent: the bounds of its particles are in order, its
global components are named for the target namespace and the key they are filed under, and its local
declarations, however deep they lie, have the namespace that their form asks for. -/
theorem consistent_of_read {identity : DocumentId} {text : String} {path : Path}
    (h : readAs identity text path = .ok d) :
    ∃ root, Xml.readTree text.toList = .ok root ∧
      d.targetNamespace = (root.attribute? "targetNamespace").getD "" ∧
      (∀ p max, d.Contains (.particle p) → p.max = .bounded max → p.min ≤ max) ∧
      (∀ key x, (key, x) ∈ d.elements → x.name = ⟨d.targetNamespace, key⟩) ∧
      (∀ key x, (key, x) ∈ d.attributes → x.name = ⟨d.targetNamespace, key⟩) ∧
      (∀ key t, (key, t) ∈ d.types → t.name? = some ⟨d.targetNamespace, key⟩) ∧
      (∀ p x, d.Contains (.particle p) → p.term.declaration? = some x → ∃ e depth,
        root.DeclaresLocally "element" "elementFormDefault" e x.name ∧
          (contextOf identity root).elementDecl depth false e = .ok x) ∧
      (∀ x usage, d.Contains (.attributeItem (.use x usage false)) → ∃ e depth,
        root.DeclaresLocally "attribute" "attributeFormDefault" e x.name ∧
          (contextOf identity root).attributeDecl depth false e = .ok x) := by
  obtain ⟨root, tree, hroot⟩ := exists_root_of_readAs h
  obtain ⟨-, target, named⟩ := ensures_ofElement_namedIn identity root path d hroot
  obtain ⟨schema, read⟩ := ensures_ofElement_readIn identity root path d hroot
  refine ⟨root, tree, target, ?_, fun _ _ mem => named.elements _ mem,
    fun _ _ mem => named.attributes _ mem, fun _ _ mem => named.types _ mem, ?_, ?_⟩
  · intro p max contains bounded
    obtain rfl | ⟨e, -, known⟩ := (read.of_contains contains).particleOf
    · cases bounded
      exact Nat.le_refl 1
    · exact known.ordered max bounded
  · intro p x contains term
    obtain rfl | ⟨e, inside, known⟩ := (read.of_contains contains).particleOf
    · cases term
    · obtain ⟨kind, ref, depth, hx⟩ := known.declaration x term
      obtain ⟨localName, namespaceName, -⟩ :=
        SchemaContext.ensures_elementDecl_parts depth false inside x hx
      exact ⟨e, depth, declaresLocally schema inside.within kind ref localName namespaceName, hx⟩
  · intro x usage contains
    cases read.of_contains contains with
    | attributeUse within kind used =>
      obtain ⟨ref, hx⟩ := (SchemaContext.ensures_attributeUse _ _ _ _ used x usage false rfl).2 rfl
      obtain ⟨localName, namespaceName, -⟩ :=
        SchemaContext.ensures_attributeDecl_parts _ _ false _ x hx
      exact ⟨_, _, declaresLocally schema within kind ref localName namespaceName, hx⟩

/-- A document with a group that declares an element locally. -/
theorem consistent_of_read_group :
    ∃ text d root p x, read text (.ofText "s.xsd") = .ok d ∧ Xml.readTree text.toList = .ok root ∧
      d.Contains (.particle p) ∧ p.term.declaration? = some x ∧ x.name = ⟨"t", "a"⟩ ∧
      ∃ e, root.DeclaresLocally "element" "elementFormDefault" e x.name := by
  let text := "<schema xmlns='http://www.w3.org/2001/XMLSchema' targetNamespace='t'>" ++
    "<group name='g'><all><element name='a' form='qualified'/></all></group></schema>"
  have computed : ((((read text (.ofText "s.xsd")).toOption.bind (·.groups.head?)).bind
      (·.2.term.members.head?)).bind (·.term.declaration?)).map (·.name) = some ⟨"t", "a"⟩ := by
    decide +kernel
  simp only [Option.map_eq_some_iff, Option.bind_eq_some_iff] at computed
  obtain ⟨x, ⟨p, ⟨group, ⟨d, hd, hgroup⟩, hp⟩, hx⟩, name⟩ := computed
  have h : read text (.ofText "s.xsd") = .ok d := by
    generalize read text (.ofText "s.xsd") = result at hd ⊢
    cases result with
    | error e => cases hd
    | ok d => exact congrArg Except.ok (Option.some.inj hd)
  have contains : d.Contains (.particle p) :=
    .part (.group (List.mem_of_head? hgroup)) (.item (List.mem_of_head? hp))
  obtain ⟨root, tree, -, -, -, -, -, elements, -⟩ := consistent_of_read h
  obtain ⟨e, -, declares, -⟩ := elements p x contains hx
  exact ⟨text, d, root, p, x, h, tree, contains, hx, name, e, declares⟩

end SchemaDocument

end XmlSchema

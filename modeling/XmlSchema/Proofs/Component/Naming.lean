import XmlSchema.Component.Reader

/-!
# Names of global components

A schema document files its global elements, attributes and types under their local names.  Each of
them has the name that the target namespace of the document and its key make up
(`SchemaDocument.named_of_readAs`).  What is said of a component that is read follows the steps of the
reading: `Ensures` states it of the result, whatever that is, and has a rule for each way to put
results together.
-/

namespace XmlSchema

/-! ## Results of reading -/

section Ensures

variable {α β ε : Type} {P : α → Prop}

/-- If there is a result, then it has the property. -/
def Ensures (P : α → Prop) (x : Except ε α) : Prop := ∀ a, x = .ok a → P a

theorem ensures_ok {a : α} (h : P a) : Ensures P (.ok a : Except ε α) := by
  rintro _ ⟨⟩
  exact h

theorem ensures_error (e : ε) : Ensures P (.error e : Except ε α) := by
  rintro _ ⟨⟩

theorem ensures_self (x : Except ε α) : Ensures (fun a => x = .ok a) x := fun _ h => h

theorem Ensures.bind {Q : β → Prop} {x : Except ε α} {f : α → Except ε β} (hx : Ensures P x)
    (hf : ∀ a, P a → Ensures Q (f a)) : Ensures Q (x >>= f) := by
  intro b hb
  cases x with
  | error e => cases hb
  | ok a => exact hf a (hx a rfl) b hb

/-- What is read first may be anything. -/
theorem ensures_bind {Q : β → Prop} {x : Except ε α} {f : α → Except ε β}
    (hf : ∀ a, Ensures Q (f a)) : Ensures Q (x >>= f) :=
  Ensures.bind (P := fun _ => True) (fun _ _ => trivial) fun a _ => hf a

theorem Ensures.map {Q : β → Prop} {f : α → β} {x : Except ε α} (h : Ensures P x)
    (imp : ∀ a, P a → Q (f a)) : Ensures Q (f <$> x) := by
  intro b hb
  cases x with
  | error e => cases hb
  | ok a =>
    cases hb
    exact imp a (h a rfl)

/-- Each of several results comes from one of the elements that were read. -/
theorem ensures_mapM {f : α → Except ε β} (xs : List α) :
    Ensures (fun ys => ∀ y ∈ ys, ∃ x ∈ xs, f x = .ok y) (xs.mapM f) := by
  induction xs with
  | nil => exact ensures_ok (by simp)
  | cons x xs ih =>
    rw [List.mapM_cons]
    refine (ensures_self (f x)).bind fun y first => ih.bind fun ys rest => ensures_ok ?_
    refine List.forall_mem_cons.2 ⟨⟨x, by simp, first⟩, fun y' mem => ?_⟩
    obtain ⟨x', mem', eq⟩ := rest y' mem
    exact ⟨x', List.mem_cons_of_mem _ mem', eq⟩

/-- What each step keeps that takes one of the elements in, all steps keep. -/
theorem ensures_foldlM_mem {f : α → β → Except ε α} {bs : List β}
    (step : ∀ a, ∀ b ∈ bs, P a → Ensures P (f a b)) (a : α) (h : P a) :
    Ensures P (bs.foldlM f a) := by
  induction bs generalizing a with
  | nil => exact ensures_ok h
  | cons b bs ih =>
    rw [List.foldlM_cons]
    exact (step a b List.mem_cons_self h).bind
      (ih fun a b mem => step a b (List.mem_cons_of_mem _ mem))

/-- What each step keeps, all steps keep. -/
theorem ensures_foldlM {f : α → β → Except ε α} (step : ∀ a b, P a → Ensures P (f a b))
    (bs : List β) (a : α) (h : P a) : Ensures P (bs.foldlM f a) :=
  ensures_foldlM_mem (fun a b _ => step a b) a h

end Ensures

/-! ## Components -/

namespace SchemaContext

variable (c : SchemaContext) (depth : Nat) (e : Xml.Element)

theorem ensures_elementDecl :
    Ensures (fun d => d.name.namespaceName = c.targetNamespace) (c.elementDecl depth true e) := by
  cases depth with
  | zero => exact ensures_error _
  | succ depth =>
    unfold elementDecl
    refine ensures_bind fun localName => ensures_bind fun named => ?_
    dsimp only
    split
    · exact ensures_ok rfl
    · split <;> exact ensures_bind fun _ => ensures_ok rfl

theorem ensures_attributeDecl :
    Ensures (fun d => d.name.namespaceName = c.targetNamespace) (c.attributeDecl depth true e) := by
  unfold attributeDecl
  refine ensures_bind fun localName => ensures_bind fun named => ?_
  dsimp only
  split
  · exact ensures_ok rfl
  · split <;> exact ensures_bind fun _ => ensures_ok rfl

theorem ensures_simpleType (localName : Option String) :
    Ensures (fun t => t.name = localName.map (QName.mk c.targetNamespace))
      (c.simpleType depth localName e) := by
  cases depth with
  | zero => exact ensures_error _
  | succ depth =>
    unfold simpleType
    dsimp only
    split
    · exact ensures_bind fun _ => ensures_bind fun _ => ensures_ok rfl
    · split
      · exact ensures_bind fun _ => ensures_ok rfl
      · split
        · exact ensures_bind fun _ => ensures_bind fun _ => ensures_ok rfl
        · exact ensures_error _

theorem ensures_simpleContent (type : ComplexType) :
    Ensures (fun t => t.identity = type.identity ∧ t.name = type.name)
      (c.simpleContent depth type e) := by
  unfold simpleContent
  refine ensures_bind fun base => ?_
  dsimp only
  split
  · exact ensures_bind fun _ => ensures_bind fun _ => ensures_ok ⟨rfl, rfl⟩
  · split <;> exact ensures_bind fun _ => ensures_bind fun _ => ensures_bind fun _ =>
      ensures_bind fun _ => ensures_ok ⟨rfl, rfl⟩

theorem ensures_complexContent (type : ComplexType) :
    Ensures (fun t => t.identity = type.identity ∧ t.name = type.name)
      (c.complexContent depth type e) := by
  cases depth with
  | zero => exact ensures_error _
  | succ depth =>
    unfold complexContent
    dsimp only
    split <;> exact ensures_bind fun _ => ensures_bind fun _ => ensures_ok ⟨rfl, rfl⟩

/-- A complex type has the identity that the place of its element makes up, and the name it is read
under. -/
theorem ensures_complexType (localName : Option String) :
    Ensures (fun t => t.identity = .definedAt c.document e.place ∧
        t.name = localName.map (QName.mk c.targetNamespace))
      (c.complexType depth localName e) := by
  cases depth with
  | zero => exact ensures_error _
  | succ depth =>
    unfold complexType
    dsimp only
    split
    · split
      · exact ensures_simpleContent c depth _ _
      · exact ensures_error _
    · split
      · exact ensures_error _
      · exact ensures_bind fun _ => ensures_complexContent c depth _ _
    · exact ensures_complexContent c depth _ _

end SchemaContext

/-! ## Documents -/

/-- The name of a type definition, if it has one. -/
def TypeDef.name? : TypeDef → Option QName
  | .complex definition => definition.name
  | .simple definition => definition.name

theorem Table.forall_mem_insert {α : Type} {P : String × α → Prop} {table : Table α} {name : String}
    {component : α} (h : ∀ entry ∈ table, P entry) (new : P (name, component)) :
    ∀ entry ∈ Table.insert table name component, P entry :=
  List.forall_mem_cons.2 ⟨new, fun entry hentry => h entry (List.mem_filter.1 hentry).1⟩

theorem Table.mem_of_get? {α : Type} {table : Table α} {name : String} {component : α}
    (h : Table.get? table name = some component) : (name, component) ∈ table := by
  obtain ⟨⟨key, found⟩, hfound, rfl⟩ := Option.map_eq_some_iff.1 h
  obtain rfl : key = name := by simpa using List.find?_some hfound
  exact List.mem_of_find?_eq_some hfound

namespace SchemaDocument

/-- The global components have the names that the target namespace and their keys make up. -/
structure Named (d : SchemaDocument) : Prop where
  elements : ∀ entry ∈ d.elements, entry.2.name = ⟨d.targetNamespace, entry.1⟩
  attributes : ∀ entry ∈ d.attributes, entry.2.name = ⟨d.targetNamespace, entry.1⟩
  types : ∀ entry ∈ d.types, entry.2.name? = some ⟨d.targetNamespace, entry.1⟩

/-- The document is the one of the context and is one for its target namespace, and its components
are named. -/
structure NamedIn (c : SchemaContext) (d : SchemaDocument) : Prop where
  identity : d.identity = c.document
  target : d.targetNamespace = c.targetNamespace
  named : d.Named

theorem ensures_addComponent (c : SchemaContext) (depth : Nat) (d : SchemaDocument)
    (e : Xml.Element) (h : d.NamedIn c) : Ensures (NamedIn c) (c.addComponent depth d e) := by
  obtain ⟨identity, target, elements, attributes, types⟩ := h
  unfold SchemaContext.addComponent
  split
  -- elements and attributes take their local name from the component that was read
  case h_1 =>
    refine (c.ensures_elementDecl depth e).bind fun decl hdecl => ensures_ok ?_
    refine ⟨identity, target, Table.forall_mem_insert elements ?_, attributes, types⟩
    rw [target, ← hdecl]
  case h_2 =>
    refine (c.ensures_attributeDecl depth e).bind fun decl hdecl => ensures_ok ?_
    refine ⟨identity, target, elements, Table.forall_mem_insert attributes ?_, types⟩
    rw [target, ← hdecl]
  -- types are read under the name that they are filed under
  case h_3 =>
    refine ensures_bind fun name => ?_
    refine (c.ensures_complexType depth e (some name)).bind fun type htype => ensures_ok ?_
    refine ⟨identity, target, elements, attributes, Table.forall_mem_insert types ?_⟩
    rw [target]
    exact htype.2
  case h_4 =>
    refine ensures_bind fun name => ?_
    refine (c.ensures_simpleType depth e (some name)).bind fun type htype => ensures_ok ?_
    refine ⟨identity, target, elements, attributes, Table.forall_mem_insert types ?_⟩
    rw [target]
    exact htype
  -- groups are in other tables
  case h_5 =>
    have kept (groups : Table (Particle ElementDecl)) : NamedIn c { d with groups } :=
      ⟨identity, target, elements, attributes, types⟩
    refine ensures_bind fun name => ?_
    split <;> exact ensures_bind fun _ => ensures_ok (kept _)
  case h_6 =>
    exact ensures_bind fun _ => ensures_bind fun _ =>
      ensures_ok ⟨identity, target, elements, attributes, types⟩
  all_goals exact ensures_ok ⟨identity, target, elements, attributes, types⟩

section Read

variable {identity : DocumentId} {text : String} {path : Path} {d : SchemaDocument}

theorem exists_root_of_readAs (h : readAs identity text path = .ok d) :
    ∃ root, Xml.readTree text.toList = .ok root ∧ ofElement identity root path = .ok d := by
  unfold readAs at h
  dsimp only at h
  split at h
  · cases h
  · rename_i root tree
    split at h
    · rename_i read
      cases h
      exact ⟨root, tree, read⟩
    · cases h

theorem ensures_ofElement_namedIn (identity : DocumentId) (root : Xml.Element) (path : Path) :
    Ensures (NamedIn (contextOf identity root)) (ofElement identity root path) := by
  unfold ofElement
  split
  · exact ensures_foldlM (ensures_addComponent _ _) _ _ ⟨rfl, rfl, by simp, by simp, by simp⟩
  · exact ensures_error _

theorem identity_of_readAs (h : readAs identity text path = .ok d) : d.identity = identity := by
  obtain ⟨root, -, hroot⟩ := exists_root_of_readAs h
  exact (ensures_ofElement_namedIn identity root path d hroot).identity

/-- The global components of a document that has been read are named. -/
theorem named_of_readAs (h : readAs identity text path = .ok d) : d.Named := by
  obtain ⟨root, -, hroot⟩ := exists_root_of_readAs h
  exact (ensures_ofElement_namedIn identity root path d hroot).named

end Read

end SchemaDocument

end XmlSchema

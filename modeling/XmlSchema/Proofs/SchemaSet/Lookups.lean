import XmlSchema.Proofs.Component.Naming
import XmlSchema.Proofs.SchemaSet.Histories

/-!
# What a set answers

A set only grows: documents are added behind those that are there.  So a component that a set finds
is found ever after (`SchemaSet.exists_added`), and since documents file components under their own
names, it has the name that was looked up (`SchemaSet.lookups_coherent`).  The effective form of a
type is different, for it may change with every document.  What a set answers is always the form
that the type has by the documents present (`SchemaSet.effectiveType_up_to_date`).
-/

namespace XmlSchema

namespace SchemaSet

variable {source : SchemaSource} {s : SchemaSet}

/-! ## Growing sets -/

/-- A set changes with the documents that are inserted; otherwise an operation leaves the documents
as they are. -/
theorem perform_induction {P : SchemaSet → Prop} (operation : Operation)
    (same : ∀ t, t.documents = s.documents → P t)
    (request : ∀ t path, P t → P (t.request source path).2)
    (step : ∀ t d, P t → P (t.insertOne source d)) : P (s.perform source operation) := by
  cases operation with
  | add b =>
    refine same _ ?_
    unfold perform add
    dsimp only
    split <;> rfl
  | compile => exact loadBindings_induction request step s.pending (same _ rfl)
  | addInline text =>
    unfold perform addInline
    dsimp only
    split
    · exact same _ rfl
    · exact insertAll_induction step _ _ _ (same _ rfl)
  | effectiveType choose =>
    obtain ⟨types, asked⟩ := exists_effectiveType s (choose s).1
    unfold perform
    dsimp only
    rw [asked]
    exact same _ rfl

theorem prefix_perform (s : SchemaSet) (source : SchemaSource) (operation : Operation) :
    s.documents.toList <+: (s.perform source operation).documents.toList := by
  refine perform_induction (P := fun t => s.documents.toList <+: t.documents.toList) operation
    (fun _ same => same ▸ List.prefix_refl _) (fun _ _ h => h) (fun t d h => ?_)
  rw [documents_insertOne, Array.toList_push]
  exact h.trans (List.prefix_append _ _)

theorem prefix_performAll (s : SchemaSet) (source : SchemaSource) (operations : List Operation) :
    s.documents.toList <+: (s.performAll source operations).documents.toList := by
  induction operations generalizing s with
  | nil => exact List.prefix_refl _
  | cons operation operations ih => exact (prefix_perform s source operation).trans (ih _)

theorem firstOf_append {α : Type} (ds added : List SchemaDocument) (namespaceName : String)
    (pick : SchemaDocument → Option α) :
    firstOf (ds ++ added) namespaceName pick =
      (firstOf ds namespaceName pick).or (firstOf added namespaceName pick) :=
  List.findSome?_append

/-- What a set does not find among the documents that it has now, it may find among those that are
added later. -/
theorem exists_added (h : s.Reachable) (source : SchemaSource) (operations : List Operation) :
    ∃ added, (s.performAll source operations).documents.toList = s.documents.toList ++ added ∧
      ∀ {α : Type} (namespaceName : String) (pick : SchemaDocument → Option α),
        (s.performAll source operations).find namespaceName pick =
          (s.find namespaceName pick).or (firstOf added namespaceName pick) := by
  obtain ⟨added, documents_eq⟩ := prefix_performAll s source operations
  refine ⟨added, documents_eq.symm, fun namespaceName pick => ?_⟩
  rw [(h.performAll source operations).indexed.find_eq, ← documents_eq, firstOf_append,
    ← h.indexed.find_eq]

/-- What has been found is found ever after. -/
theorem find_performAll (h : s.Reachable) (source : SchemaSource) (operations : List Operation)
    {α : Type} {namespaceName : String} {pick : SchemaDocument → Option α} {component : α}
    (found : s.find namespaceName pick = some component) :
    (s.performAll source operations).find namespaceName pick = some component := by
  obtain ⟨added, -, find_eq⟩ := exists_added h source operations
  rw [find_eq, found, Option.some_or]

/-! ## Names -/

theorem Indexed.exists_of_find (h : s.Indexed) {α : Type} {namespaceName : String}
    {pick : SchemaDocument → Option α} {component : α}
    (found : s.find namespaceName pick = some component) :
    ∃ d ∈ s.documents, d.targetNamespace = namespaceName ∧ pick d = some component := by
  rw [h.find_eq] at found
  obtain ⟨d, hd, found⟩ := List.exists_of_findSome?_eq_some found
  split at found
  · rename_i target
    exact ⟨d, Array.mem_toList_iff.1 hd, target, found⟩
  · cases found

/-- The global components of all documents have the names under which they are filed. -/
def Named (s : SchemaSet) : Prop := ∀ d ∈ s.documents, d.Named

theorem named_performAll (source : SchemaSource) (operations : List Operation) :
    (performAll source {} operations).Named := by
  intro d hd
  rw [← History.set_after] at hd
  obtain ⟨identity, text, path, hread⟩ := (History.fits_after source operations).exists_read hd
  exact SchemaDocument.named_of_readAs hread

section Named

variable (indexed : s.Indexed) (named : s.Named) {name : QName}

include indexed named

theorem name_of_element? {decl : ElementDecl} (h : s.element? name = some decl) :
    decl.name = name := by
  obtain ⟨d, hd, target, found⟩ := indexed.exists_of_find h
  rw [(named d hd).elements _ (Table.mem_of_get? found), target]

theorem name_of_attribute? {decl : AttributeDecl} (h : s.attribute? name = some decl) :
    decl.name = name := by
  obtain ⟨d, hd, target, found⟩ := indexed.exists_of_find h
  rw [(named d hd).attributes _ (Table.mem_of_get? found), target]

theorem name?_of_typeDef? {type : TypeDef} (h : s.typeDef? name = some type) :
    type.name? = some name := by
  obtain ⟨d, hd, target, found⟩ := indexed.exists_of_find h
  rw [(named d hd).types _ (Table.mem_of_get? found), target]

/-- A reference stands for an element with its name, whether or not there is a declaration. -/
theorem name_element (name : QName) : (s.globals.element name).name = name := by
  unfold Globals.element
  cases h : s.globals.element? name with
  | none => rfl
  | some decl => exact name_of_element? indexed named h

end Named

theorem admits_of_leaf? (indexed : s.Indexed) (named : s.Named) {name : QName} {leaf : Leaf}
    (h : s.globals.leaf? (.elementRef name) = some leaf) (other : QName) :
    leaf.admits other = true ↔ other = name := by
  obtain rfl : Leaf.element (s.globals.element name) = leaf := Option.some.inj h
  simp only [Leaf.admits, beq_iff_eq, name_element indexed named]
  exact eq_comm

/-- A component has the name under which it is found, and once found, it is found ever after.  It is
that of the first document which has one, so that documents added later count only for names that
are still without a component.  A reference admits the name that it refers to and no other. -/
theorem lookups_coherent (source : SchemaSource) (before later : List Operation) (name : QName) :
    let s := performAll source {} before
    let t := s.performAll source later
    (∀ decl, s.element? name = some decl → decl.name = name ∧ t.element? name = some decl) ∧
      (∀ decl, s.attribute? name = some decl → decl.name = name ∧ t.attribute? name = some decl) ∧
      (∀ type, s.typeDef? name = some type →
        type.name? = some name ∧ t.typeDef? name = some type) ∧
      (∃ added, t.documents.toList = s.documents.toList ++ added ∧
        ∀ {α : Type} (pick : SchemaDocument → Option α),
          s.find name.namespaceName pick =
              firstOf s.documents.toList name.namespaceName pick ∧
            t.find name.namespaceName pick =
              (s.find name.namespaceName pick).or (firstOf added name.namespaceName pick)) ∧
      ∃ leaf, s.globals.leaf? (.elementRef name) = some leaf ∧
        ∀ other, leaf.admits other = true ↔ other = name := by
  intro s t
  have reachable : s.Reachable := Reachable.new.performAll source before
  have indexed := reachable.indexed
  have named : s.Named := named_performAll source before
  refine ⟨fun decl h => ⟨name_of_element? indexed named h, ?_⟩,
    fun decl h => ⟨name_of_attribute? indexed named h, ?_⟩,
    fun type h => ⟨name?_of_typeDef? indexed named h, ?_⟩, ?_, ?_⟩
  · exact find_performAll reachable source later h
  · exact find_performAll reachable source later h
  · exact find_performAll reachable source later h
  · obtain ⟨added, documents_eq, find_eq⟩ := exists_added reachable source later
    exact ⟨added, documents_eq, fun pick => ⟨indexed.find_eq _ pick, find_eq _ pick⟩⟩
  · exact ⟨_, rfl, admits_of_leaf? indexed named rfl⟩

/-! ## Effective types -/

/-- Whatever brings a document makes the set forget the forms that it remembers. -/
theorem effectiveTypes_perform (s : SchemaSet) (source : SchemaSource) (operation : Operation)
    (grown : (s.perform source operation).documents ≠ s.documents) :
    (s.perform source operation).effectiveTypes = [] := by
  have kept_or_forgotten : (s.perform source operation).documents = s.documents ∨
      (s.perform source operation).effectiveTypes = [] :=
    perform_induction (P := fun t => t.documents = s.documents ∨ t.effectiveTypes = []) operation
      (fun _ same => .inl same) (fun _ _ h => h)
      (fun t d _ => .inr (congrArg effectiveTypes (sameDocuments_insertOne t source d)))
  exact kept_or_forgotten.resolve_left grown

theorem Holds.performAll {type : ComplexType} (h : s.Holds type) (source : SchemaSource)
    (operations : List Operation) : (s.performAll source operations).Holds type := by
  cases h with
  | anyType => exact .anyType
  | inDocument mem contains =>
    have mem := (prefix_performAll s source operations).subset (Array.mem_toList_iff.2 mem)
    exact .inDocument (Array.mem_toList_iff.1 mem) contains

/-- When a set has been asked about a type, it knows an answer. -/
theorem mem_effectiveTypes (s : SchemaSet) (type : ComplexType) :
    (type.identity, (s.effectiveType type).1) ∈ (s.effectiveType type).2.effectiveTypes := by
  unfold effectiveType
  split
  · rename_i identity known found
    have hidentity := List.find?_some found
    obtain rfl : identity = type.identity := by simpa using hidentity
    exact List.mem_of_find?_eq_some found
  · exact List.mem_cons_self

/-- A set holds a type ever after, and holds no other type with its identity.  Whenever the set is
asked for the effective form of the type, and whatever it was asked and given before, the answer is
the form by the documents that the set holds then.  The answer is kept, but no answer is kept when a
document arrives. -/
theorem effectiveType_up_to_date (source : SchemaSource) (before later : List Operation)
    (type : ComplexType) (held : (performAll source {} before).Holds type) :
    let s := performAll source {} (before ++ later)
    s.Holds type ∧
      (∀ other, s.Holds other → other.identity = type.identity → other = type) ∧
      (s.effectiveType type).1 = (ofDocuments s.documents.toList).flatten type ∧
      (type.identity, (ofDocuments s.documents.toList).flatten type) ∈
        (s.effectiveType type).2.effectiveTypes ∧
      ∀ operation, (s.perform source operation).documents ≠ s.documents →
        (s.perform source operation).effectiveTypes = [] := by
  intro s
  have reachable : s.Reachable := Reachable.new.performAll source (before ++ later)
  have still : s.Holds type := by
    have := held.performAll source later
    rwa [← performAll_append] at this
  have answer : (s.effectiveType type).1 = (ofDocuments s.documents.toList).flatten type :=
    calc
      (s.effectiveType type).1 = s.flatten type := (reachable.remembers.effectiveType still).1
      _ = (ofDocuments s.documents.toList).flatten type := by
        rw [reachable.indexed.same.flatten_eq]
  have kept := mem_effectiveTypes s type
  rw [answer] at kept
  exact ⟨still, reachable.remembers.identifies type still, answer, kept,
    effectiveTypes_perform s source⟩

/-- An element, another declaration of it with a type inside, and the base of that type, in three
documents that do not know of each other. -/
def sampleParts : SchemaSource :=
  let schema (content : String) :=
    "<x:schema xmlns:x='http://www.w3.org/2001/XMLSchema'>" ++ content ++ "</x:schema>"
  SchemaSource.ofFiles
    [(.ofText "/first", .ok (schema "<x:element name='e'/>")),
      (.ofText "/second", .ok (schema ("<x:element name='e'><x:complexType><x:complexContent>" ++
        "<x:extension base='base'/></x:complexContent></x:complexType></x:element>"))),
      (.ofText "/base", .ok (schema
        "<x:complexType name='base'><x:attribute name='a'/></x:complexType>"))]

/-- The type that stands inside the first element of the document at an index. -/
def innerType (index : Nat) (s : SchemaSet) : { type : ComplexType // s.Holds type } :=
  match found : s.documents[index]? with
  | none => ⟨.anyType, .anyType⟩
  | some d =>
    match first : d.elements.head? with
    | none => ⟨.anyType, .anyType⟩
    | some entry =>
      match inner : entry.2.type with
      | some (.complex type) =>
        ⟨type, .inDocument (Array.mem_of_getElem? found)
          (.part (.part (.globalElement (List.mem_of_head? first)) (.elementType inner))
            (.complexDefinition type))⟩
      | _ => ⟨.anyType, .anyType⟩

/-- The type has no name, and its element is found in another document.  Asked before the base is
there, the set answers that the type has no attributes, and keeps this.  Asked again, it does not
repeat this answer. -/
theorem effectiveType_up_to_date_base :
    let before : List Operation :=
      [.add ⟨"", .ofText "/first"⟩, .add ⟨"", .ofText "/second"⟩, .compile,
        .effectiveType (innerType 1)]
    let later : List Operation := [.add ⟨"", .ofText "/base"⟩, .compile]
    let early := performAll sampleParts {} before
    let late := performAll sampleParts {} (before ++ later)
    let type := (innerType 1 early).1
    early.Holds type ∧ type.name = none ∧ early.effectiveTypes.length = 1 ∧
      (early.element? ⟨"", "e"⟩).map (·.type.isSome) = some false ∧
      (early.effectiveType type).1.attributes.length = 0 ∧
      (late.effectiveType type).1.attributes.length = 1 := by
  intro before later early late type
  have held : early.Holds type := (innerType 1 early).2
  obtain ⟨-, -, first, -⟩ := effectiveType_up_to_date sampleParts before [] type held
  obtain ⟨-, -, second, -⟩ := effectiveType_up_to_date sampleParts before later type held
  rw [List.append_nil] at first
  rw [first, second]
  exact ⟨held, by decide +kernel⟩

end SchemaSet

end XmlSchema

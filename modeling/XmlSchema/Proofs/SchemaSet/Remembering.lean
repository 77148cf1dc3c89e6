import XmlSchema.Proofs.SchemaSet.Sources

/-!
# Remembered types

A set remembers the effective forms of complex types.  For the types that it holds, what it answers
is always what it would compute (`SchemaSet.Remembers.effectiveType`): an answer is kept under the
identity of the type, which no other type has, and only until a document is added, while all
components depend on the documents alone (`SchemaSet.SameComponents`).
-/

namespace XmlSchema

namespace SchemaSet

variable {s t : SchemaSet}

/-! ## Components -/

/-- The sets hold the same documents. -/
structure SameComponents (s t : SchemaSet) : Prop where
  documents : t.documents = s.documents
  byNamespace : t.byNamespace = s.byNamespace

namespace SameComponents

theorem trans {u : SchemaSet} (hst : SameComponents s t) (htu : SameComponents t u) :
    SameComponents s u :=
  ⟨htu.documents.trans hst.documents, htu.byNamespace.trans hst.byNamespace⟩

variable (h : SameComponents s t)

include h

theorem find_eq {α : Type} (namespaceName : String) (pick : SchemaDocument → Option α) :
    t.find namespaceName pick = s.find namespaceName pick := by
  unfold find indices?
  rw [h.documents, h.byNamespace]

theorem element?_eq : t.element? = s.element? := funext fun _ => h.find_eq _ _

theorem attribute?_eq : t.attribute? = s.attribute? := funext fun _ => h.find_eq _ _

theorem attributeGroup?_eq : t.attributeGroup? = s.attributeGroup? := funext fun _ => h.find_eq _ _

theorem typeDef?_eq : t.typeDef? = s.typeDef? := funext fun _ => h.find_eq _ _

theorem group?_eq : t.group? = s.group? := funext fun _ => h.find_eq _ _

theorem globals_eq : t.globals = s.globals := by
  unfold globals
  rw [h.element?_eq, h.group?_eq]

theorem resolve_eq : t.resolve = s.resolve := by
  funext reference
  cases reference <;> simp only [resolve, h.typeDef?_eq]

theorem isEmpty_eq : t.isEmpty = s.isEmpty := by
  unfold isEmpty
  rw [h.documents]

theorem addItem_eq (group : QName → Collected → Collected) : t.addItem group = s.addItem group := by
  funext c item
  simp only [addItem, usedDeclaration, h.attribute?_eq]

theorem addGroup_eq (levels : Nat) : t.addGroup levels = s.addGroup levels := by
  induction levels with
  | zero => rfl
  | succ levels ih =>
    funext name c
    simp only [addGroup, h.attributeGroup?_eq, ih, h.addItem_eq]

theorem addItems_eq : t.addItems = s.addItems := by
  funext items c
  simp only [addItems, h.addGroup_eq, h.addItem_eq]

theorem extensionChain_eq (steps : Nat) : t.extensionChain steps = s.extensionChain steps := by
  induction steps with
  | zero => rfl
  | succ steps ih =>
    funext type
    simp only [extensionChain, h.typeDef?_eq, ih]

theorem withoutBase_eq : t.withoutBase = s.withoutBase := by
  funext type
  simp only [withoutBase, ownContent, h.addItems_eq, h.globals_eq]

/-- The effective form of a type depends on the documents alone. -/
theorem flatten_eq : t.flatten = s.flatten := by
  have within (steps : Nat) : t.flattenWithin steps = s.flattenWithin steps := by
    induction steps with
    | zero =>
      funext type
      exact congrFun h.withoutBase_eq type
    | succ steps ih =>
      funext type
      simp only [flattenWithin, flattenedBase?, restricted, extended, baseParticle?, h.resolve_eq,
        h.withoutBase_eq, h.addItems_eq, h.typeDef?_eq, h.extensionChain_eq, h.globals_eq, ih]
  exact within baseDepth

end SameComponents

/-! ## Types in the documents -/

theorem SameComponents.holds_iff (h : SameComponents s t) {type : ComplexType} :
    t.Holds type ↔ s.Holds type := by
  constructor
  · rintro (_ | ⟨mem, contains⟩)
    · exact .anyType
    · exact .inDocument (h.documents ▸ mem) contains
  · rintro (_ | ⟨mem, contains⟩)
    · exact .anyType
    · exact .inDocument (h.documents ▸ mem) contains

theorem exists_of_find {α : Type} {namespaceName : String} {pick : SchemaDocument → Option α}
    {component : α} (found : s.find namespaceName pick = some component) :
    ∃ d ∈ s.documents, pick d = some component := by
  obtain ⟨index, -, picked⟩ := List.exists_of_findSome?_eq_some found
  obtain ⟨d, found, picked⟩ := Option.bind_eq_some_iff.1 picked
  exact ⟨d, Array.mem_of_getElem? found, picked⟩

theorem holds_of_typeDef? {name : QName} {type : ComplexType}
    (found : s.typeDef? name = some (.complex type)) : s.Holds type := by
  obtain ⟨d, mem, picked⟩ := exists_of_find found
  exact .inDocument mem (.part (.type (Table.mem_of_get? picked)) (.complexDefinition type))

/-- A name stands for a type that the set holds, if it stands for a complex type at all. -/
theorem holds_of_resolve_named {name : QName} {type : ComplexType}
    (resolved : s.resolve (.named name) = some (.complex type)) : s.Holds type := by
  unfold resolve at resolved
  dsimp only at resolved
  split at resolved
  · split at resolved
    · cases resolved
      exact .anyType
    · obtain ⟨b, -, wrong⟩ := Option.map_eq_some_iff.1 resolved
      cases wrong
  · split at resolved
    · rename_i found
      cases resolved
      exact holds_of_typeDef? found
    · cases resolved
    · cases resolved

/-! ## Answers -/

/-- No type that the set holds has the identity of the type, unless it is the type itself. -/
def Identifies (s : SchemaSet) (type : ComplexType) : Prop :=
  ∀ t, s.Holds t → t.identity = type.identity → t = type

/-- Every remembered form is that of a type which the set holds and which has the identity. -/
def Recalls (s : SchemaSet) : Prop :=
  ∀ identity known, (identity, known) ∈ s.effectiveTypes →
    ∃ type, s.Holds type ∧ type.identity = identity ∧ known = s.flatten type

theorem Recalls.of_same (h : s.Recalls) (same : SameComponents s t)
    (types : t.effectiveTypes = s.effectiveTypes) : t.Recalls := by
  intro identity known hmem
  rw [types] at hmem
  obtain ⟨type, held, identity_eq, known_eq⟩ := h identity known hmem
  exact ⟨type, same.holds_iff.2 held, identity_eq, by rw [known_eq, same.flatten_eq]⟩

theorem Recalls.effectiveType (h : s.Recalls) {type : ComplexType} (held : s.Holds type) :
    (s.effectiveType type).2.Recalls := by
  unfold SchemaSet.effectiveType
  split
  · exact h
  · have same : SameComponents s
        { s with effectiveTypes := (type.identity, s.flatten type) :: s.effectiveTypes } :=
      ⟨rfl, rfl⟩
    intro identity known hmem
    rw [same.flatten_eq]
    rcases List.mem_cons.1 hmem with heq | hmem
    · obtain ⟨rfl, rfl⟩ := Prod.mk.inj heq
      exact ⟨type, same.holds_iff.2 held, rfl, rfl⟩
    · obtain ⟨other, held', identity_eq, known_eq⟩ := h identity known hmem
      exact ⟨other, same.holds_iff.2 held', identity_eq, known_eq⟩

/-- What the set remembers can be relied on: identities are unique. -/
structure Remembers (s : SchemaSet) : Prop where
  identifies : ∀ type, s.Holds type → s.Identifies type
  recalls : s.Recalls

/-- The second set is the first after questions for effective types. -/
structure Asked (s t : SchemaSet) : Prop where
  eq : t = { s with effectiveTypes := t.effectiveTypes }
  remembers : t.Remembers

theorem Asked.refl (h : s.Remembers) : Asked s s := ⟨rfl, h⟩

theorem Asked.trans {u : SchemaSet} (hst : Asked s t) (htu : Asked t u) : Asked s u := by
  refine ⟨?_, htu.remembers⟩
  rw [htu.eq, hst.eq]

theorem Asked.same (h : Asked s t) : SameComponents s t := by
  have hdocuments := congrArg documents h.eq
  have hnames := congrArg byNamespace h.eq
  exact ⟨hdocuments, hnames⟩

theorem Asked.pending_eq (h : Asked s t) : t.pending = s.pending := by
  have hpending := congrArg pending h.eq
  exact hpending

/-- A set answers with the effective form of the type, if the identity of the type is not that of
another one. -/
theorem Recalls.effectiveType_eq (h : s.Recalls) {type : ComplexType}
    (identified : s.Identifies type) : (s.effectiveType type).1 = s.flatten type := by
  unfold SchemaSet.effectiveType
  split
  · rename_i identity known found
    have hidentity := List.find?_some found
    obtain rfl : identity = type.identity := by simpa using hidentity
    obtain ⟨other, held, same, rfl⟩ := h _ known (List.mem_of_find?_eq_some found)
    rw [identified other held same]
  · rfl

/-- When a set is asked about a type that it holds, it answers with the effective form of the type,
and remembers this at most. -/
theorem Remembers.effectiveType (h : s.Remembers) {type : ComplexType} (held : s.Holds type) :
    (s.effectiveType type).1 = s.flatten type ∧ Asked s (s.effectiveType type).2 := by
  refine ⟨h.recalls.effectiveType_eq (h.identifies type held), ?_⟩
  have recalls := h.recalls.effectiveType held
  obtain ⟨types, asked⟩ := exists_effectiveType s type
  rw [asked] at recalls ⊢
  have same : SameComponents s { s with effectiveTypes := types } := ⟨rfl, rfl⟩
  refine ⟨rfl, fun type held other held' => ?_, recalls⟩
  exact h.identifies type (same.holds_iff.1 held) other (same.holds_iff.1 held')

theorem Reachable.recalls (h : s.Reachable) : s.Recalls := by
  refine h.preserves (P := Recalls) (by simp [Recalls]) (fun s b h => ?_)
    (fun s h => h.of_same ⟨rfl, rfl⟩ rfl) (fun s n h => h.of_same ⟨rfl, rfl⟩ rfl)
    (fun s source path h => h.of_same ⟨rfl, rfl⟩ rfl) (fun s source d _ => ?_)
    (fun s type held h => h.effectiveType held)
  · unfold SchemaSet.add
    split
    · exact h
    · exact h.of_same ⟨rfl, rfl⟩ rfl
  · -- with a new document, everything is forgotten
    have forgotten : (s.insertOne source d).effectiveTypes = [] :=
      congrArg effectiveTypes (sameDocuments_insertOne s source d)
    intro identity known hmem
    rw [forgotten] at hmem
    simp at hmem

theorem Reachable.remembers (h : s.Reachable) : s.Remembers :=
  ⟨fun _ held _ held' => h.eq_of_identity_eq held' held, h.recalls⟩

end SchemaSet

end XmlSchema

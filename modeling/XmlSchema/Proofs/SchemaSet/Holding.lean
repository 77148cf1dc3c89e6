import XmlSchema.Proofs.Content.Exactness
import XmlSchema.Proofs.Content.Expectation
import XmlSchema.Proofs.SchemaSet.Remembering

/-!
# Types that content leads to

What a set holds is closed under content: the elements that a type of the set can contain have types
of the set again, or are declared without one (`SchemaSet.over_flatten`).  For the declarations that a
content model is compiled from stand in the documents, however deep the groups are nested and however
long the chain of bases is.
-/

namespace XmlSchema

/-! ## Leaves of content models -/

section Leaves

variable {P : Leaf → Prop}

/-- The leaves of a compiled content model satisfy `P`. -/
def CompiledModel.Over (P : Leaf → Prop) : CompiledModel → Prop
  | .automaton a => ∀ s leaf t, (s, some leaf, t) ∈ a.transitions → P leaf
  | .all model => ∀ member ∈ model.members, P member.1

/-- The leaves of the model that a matcher works with satisfy `P`. -/
def ContentMatcher.Over (P : Leaf → Prop) : ContentMatcher → Prop
  | .automaton a _ => CompiledModel.Over P (.automaton a)
  | .all model _ => CompiledModel.Over P (.all model)

/-- The leaves of the content satisfy `P`, if it is element content. -/
def EffectiveContent.Over (P : Leaf → Prop) : EffectiveContent → Prop
  | .empty | .simple _ => True
  | .elements model => model.Over P

theorem ContentMatcher.over_ofModel {model : CompiledModel} (h : model.Over P) :
    (ofModel model).Over P := by
  cases model <;> exact h

theorem ContentMatcher.Over.of_offers {m : ContentMatcher} {leaf : Leaf} (h : m.Over P)
    (offer : m.Offers leaf) : P leaf := by
  cases offer with
  | edge _ step => exact h _ leaf _ step
  | member unseen => exact h _ (List.of_mem_zip unseen).1

/-- A child matches a leaf of the model, and the model stays the same. -/
theorem ContentMatcher.Over.step {m next : ContentMatcher} {name : QName} {leaf : Leaf}
    (h : m.Over P) (taken : m.step name = (some leaf, next)) : P leaf ∧ next.Over P := by
  refine ⟨h.of_offers (offers_of_step taken).1, ?_⟩
  cases m with
  | automaton a current =>
    obtain ⟨-, -, rfl⟩ := step_automaton_eq_some_iff.1 taken
    exact h
  | all model seen =>
    obtain ⟨-, rfl⟩ := Prod.mk.inj taken
    exact h

/-- The leaves that are nested in a particle, at any depth, satisfy `P`. -/
def Globals.Leaves (globals : Globals) (P : Leaf → Prop) (p : Particle ElementDecl) : Prop :=
  ∀ levels, globals.LeavesIn P levels p

theorem Globals.Leaves.sequence {globals : Globals} {items : List (Particle ElementDecl)}
    (h : ∀ q ∈ items, globals.Leaves P q) : globals.Leaves P (.once (.sequence items)) := by
  intro levels n q leaf hn nested found
  cases nested with
  | refl => simp [Particle.once, Globals.leaf?] at found
  | member mem rest => exact h _ mem levels n q leaf hn rest found
  | group ref => simp [Particle.once] at ref

theorem CompiledModel.over_ofParticle {globals : Globals} {p : Particle ElementDecl}
    (h : globals.Leaves P p) : (CompiledModel.ofParticle globals p).Over P := by
  unfold CompiledModel.ofParticle
  split
  · rename_i items isOptional top
    obtain ⟨r, refers, hr⟩ := Globals.refersTo_of_topLevelAll? top
    obtain ⟨n, nested⟩ := refers.nested
    intro member mem
    obtain ⟨q, hq, hmember⟩ := List.mem_filterMap.1 mem
    obtain ⟨leaf, found, rfl⟩ := Option.map_eq_some_iff.1 hmember
    have mem' : q ∈ r.term.members := by simpa [hr, Term.members] using hq
    exact h n n q leaf (Nat.le_refl n) (nested.of_mem mem') found
  · exact (Globals.reads_automaton (h 16)).2.2.1

end Leaves

namespace SchemaSet

variable {s : SchemaSet}

/-! ## Declarations in the documents -/

/-- A document of the set contains the part. -/
def Has (s : SchemaSet) (part : Part) : Prop := ∃ d ∈ s.documents, d.Contains part

theorem Has.part {a b : Part} (h : s.Has a) (has : a.Has b) : s.Has b := by
  obtain ⟨d, mem, contains⟩ := h
  exact ⟨d, mem, contains.part has⟩

/-- The set holds the complex type that stands in a declaration, if one does. -/
def HoldsTypeOf (s : SchemaSet) (declaration : ElementDecl) : Prop :=
  ∀ type, declaration.type = some (.complex type) → s.Holds type

/-- The set holds the complex type that stands in the declaration of a leaf. -/
def HoldsLeaf (s : SchemaSet) : Leaf → Prop
  | .element declaration => s.HoldsTypeOf declaration
  | .wildcard _ => True

theorem Has.holdsTypeOf {declaration : ElementDecl} (h : s.Has (.element declaration)) :
    s.HoldsTypeOf declaration := by
  intro type htype
  obtain ⟨d, mem, contains⟩ := (h.part (.elementType htype)).part (.complexDefinition type)
  exact .inDocument mem contains

theorem holdsTypeOf_of_element? {name : QName} {declaration : ElementDecl}
    (found : s.element? name = some declaration) : s.HoldsTypeOf declaration := by
  obtain ⟨d, mem, picked⟩ := exists_of_find found
  exact Has.holdsTypeOf ⟨d, mem, .globalElement (Table.mem_of_get? picked)⟩

theorem holdsTypeOf_element (s : SchemaSet) (name : QName) :
    s.HoldsTypeOf (s.globals.element name) := by
  unfold Globals.element
  cases found : s.globals.element? name with
  | none => simp [HoldsTypeOf, ElementDecl.untyped]
  | some declaration => exact holdsTypeOf_of_element? found

theorem Has.nested {p q : Particle ElementDecl} {n : Nat} (h : s.Has (.particle p))
    (nested : s.globals.Nested p n q) : s.Has (.particle q) := by
  induction nested with
  | refl => exact h
  | member mem _ ih => exact ih (h.part (.item mem))
  | group ref found _ ih =>
    obtain ⟨d, mem, picked⟩ := exists_of_find found
    exact ih ⟨d, mem, .group (Table.mem_of_get? picked)⟩

theorem Has.leaves {p : Particle ElementDecl} (h : s.Has (.particle p)) :
    s.globals.Leaves s.HoldsLeaf p := by
  intro levels n q leaf _ nested found
  have inside := h.nested nested
  cases hterm : q.term with
  | element declaration =>
    rw [hterm] at found
    obtain rfl := Option.some.inj found
    exact (inside.part (.declaration (by rw [hterm]; rfl))).holdsTypeOf
  | elementRef name =>
    rw [hterm] at found
    obtain rfl := Option.some.inj found
    exact s.holdsTypeOf_element name
  | wildcard wildcard =>
    rw [hterm] at found
    obtain rfl := Option.some.inj found
    trivial
  | _ => simp [hterm, Globals.leaf?] at found

/-! ## Content of types -/

theorem Holds.leaves {type : ComplexType} (held : s.Holds type) {p : Particle ElementDecl}
    (content : type.content = .particle p) : s.globals.Leaves s.HoldsLeaf p := by
  cases held with
  | inDocument mem contains => exact Has.leaves ⟨_, mem, contains.part (.content content)⟩
  | anyType =>
    obtain rfl := ContentModel.particle.inj content
    intro levels n q leaf _ nested found
    cases nested with
    | refl =>
      obtain rfl := Option.some.inj found
      trivial
    | member mem => simp [Term.members] at mem
    | group ref => simp at ref

/-- Every type along a chain of bases is one of the set. -/
theorem leaves_of_mem_extensionChain (steps : Nat) {type : ComplexType} (held : s.Holds type) :
    ∀ p ∈ s.extensionChain steps type, s.globals.Leaves s.HoldsLeaf p := by
  induction steps generalizing type with
  | zero => simp [extensionChain]
  | succ steps ih =>
    intro p mem
    unfold extensionChain at mem
    extract_lets own at mem
    have leaves (mem : p ∈ own) : s.globals.Leaves s.HoldsLeaf p := by
      unfold own at mem
      cases content : type.content with
      | particle q =>
        rw [content] at mem
        exact held.leaves (List.mem_singleton.1 mem ▸ content)
      | _ => simp [content] at mem
    clear_value own
    split at mem
    · split at mem
      · rename_i found
        rcases List.mem_append.1 mem with mem | mem
        · exact leaves mem
        · exact ih (holds_of_typeDef? found) p mem
      · exact leaves mem
    · exact leaves mem

theorem leaves_baseParticle? {steps : Nat} {base : QName} {content : EffectiveContent}
    {p : Particle ElementDecl} (h : s.baseParticle? steps base content = some p) :
    s.globals.Leaves s.HoldsLeaf p := by
  unfold baseParticle? at h
  split at h
  · rename_i definition _ found
    have chain : ∀ q ∈ (s.extensionChain steps definition).reverse,
        s.globals.Leaves s.HoldsLeaf q := fun q mem =>
      leaves_of_mem_extensionChain steps (holds_of_typeDef? found) q (List.mem_reverse.1 mem)
    split at h
    · cases h
    · rename_i single
      cases h
      exact chain p (by simp [single])
    · cases h
      exact .sequence chain
  · cases h

theorem over_extendedContent {own basePart : Option (Particle ElementDecl)}
    {base : EffectiveContent} (own_held : ∀ p, own = some p → s.globals.Leaves s.HoldsLeaf p)
    (base_held : ∀ p, basePart = some p → s.globals.Leaves s.HoldsLeaf p) :
    (extendedContent own basePart base (.ofParticle s.globals)).Over s.HoldsLeaf := by
  cases own with
  | none =>
    cases basePart with
    | none => cases base <;> trivial
    | some b => exact CompiledModel.over_ofParticle (base_held b rfl)
  | some o =>
    cases basePart with
    | none => exact CompiledModel.over_ofParticle (own_held o rfl)
    | some b =>
      refine CompiledModel.over_ofParticle (.sequence fun q mem => ?_)
      rcases List.mem_cons.1 mem with rfl | mem
      · exact base_held q rfl
      · exact own_held q (List.mem_singleton.1 mem ▸ rfl)

/-- The set holds the types of the elements that a type of the set can contain. -/
theorem over_flatten {type : ComplexType} (held : s.Holds type) :
    (s.flatten type).content.Over s.HoldsLeaf := by
  have alone : (s.withoutBase type).content.Over s.HoldsLeaf := by
    unfold withoutBase ownContent
    dsimp only
    cases content : type.content with
    | particle p => exact CompiledModel.over_ofParticle (held.leaves content)
    | _ => trivial
  unfold flatten baseDepth flattenWithin
  split
  · exact alone
  · exact alone
  · -- whatever the base is, its particle and that of the type come from the documents
    unfold extended
    dsimp only
    cases content : type.content with
    | simple => trivial
    | empty => exact over_extendedContent (by simp) fun p => leaves_baseParticle?
    | particle p =>
      refine over_extendedContent (fun q hq => ?_) fun p => leaves_baseParticle?
      exact held.leaves (Option.some.inj hq ▸ content)

end SchemaSet

end XmlSchema

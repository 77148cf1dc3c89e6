import XmlSchema.Proofs.Content.Folding
import XmlSchema.Proofs.SchemaSet.Remembering

/-!
# Chains of extensions

A type that extends another has the content of the other and then its own.  `SchemaSet.Extends` says
which types stand in a chain of extensions.  The effective form of the last type is computed in two
ways that have to agree: `SchemaSet.flattenWithin` goes down the chain for the form of the base, and
`SchemaSet.extensionChain` goes down it again for the particles.  The main statement says that the
outcome is the sequence of all particles in the chain (`SchemaSet.effectiveType_of_extends`).
-/

namespace XmlSchema

/-- The particle of a type that has one. -/
def ComplexType.particle? (type : ComplexType) : Option (Particle ElementDecl) :=
  match type.content with
  | .particle p => some p
  | _ => none

namespace SchemaSet

/-- The types along a chain of extensions that ends in a type, beginning with the one that is no
extension. -/
inductive Extends (s : SchemaSet) : List ComplexType → ComplexType → Prop where
  | root {type : ComplexType} (h : ∀ name, type.base ≠ some (name, .extension)) :
    Extends s [type] type
  | step {types : List ComplexType} {base type : ComplexType} {name : QName}
    (rest : Extends s types base) (h : type.base = some (name, .extension))
    (outside : name.namespaceName ≠ schemaNamespace)
    (found : s.typeDef? name = some (.complex base)) : Extends s (types ++ [type]) type

/-- The type has no content of its own, or a particle that is not an `all` group. -/
def Plain (s : SchemaSet) (type : ComplexType) : Prop :=
  type.content = .empty ∨
    ∃ p, type.content = .particle p ∧ s.globals.topLevelAll? groupDepth p = none

/-- The content consists of particles in a row, if there are any. -/
def Reads (s : SchemaSet) (content : EffectiveContent) (ps : List (Particle ElementDecl)) : Prop :=
  (ps = [] → content = .empty) ∧
    (ps ≠ [] → ∃ model, content = .elements model ∧
      ∀ names, (ContentMatcher.ofModel model).Accepts names ↔
        (ContentMatcher.ofParticle s.globals (.once (.sequence ps))).Accepts names)

variable {s : SchemaSet} {types : List ComplexType} {base type : ComplexType} {steps : Nat}
  {name : QName}

theorem Extends.length_pos (h : s.Extends types type) : 0 < types.length := by
  cases h <;> simp

/-! ## Particles -/

theorem extensionChain_root (no_extension : ∀ name, type.base ≠ some (name, .extension))
    (steps : Nat) : s.extensionChain (steps + 1) type = type.particle?.toList := by
  unfold extensionChain ComplexType.particle?
  dsimp only
  cases hbase : type.base with
  | none => cases type.content <;> rfl
  | some derivation =>
    obtain ⟨name, method⟩ := derivation
    cases method with
    | extension => exact absurd hbase (no_extension name)
    | restriction => cases type.content <;> rfl

theorem extensionChain_step (h : type.base = some (name, .extension))
    (found : s.typeDef? name = some (.complex base)) (steps : Nat) :
    s.extensionChain (steps + 1) type =
      type.particle?.toList ++ s.extensionChain steps base := by
  rw [extensionChain, h]
  dsimp only
  rw [found]
  unfold ComplexType.particle?
  cases type.content <;> rfl

/-- The chain of particles is that of the types, read backwards. -/
theorem Extends.extensionChain_eq (h : s.Extends types type) (length : types.length ≤ steps) :
    s.extensionChain steps type = (types.filterMap ComplexType.particle?).reverse := by
  have single (type : ComplexType) : ([type].filterMap ComplexType.particle?).reverse =
      type.particle?.toList := by
    cases hp : type.particle? <;> simp [hp]
  induction h generalizing steps with
  | @root type no_extension =>
    cases steps with
    | zero => simp at length
    | succ steps => rw [extensionChain_root no_extension, single]
  | @step types base type name rest h outside found ih =>
    cases steps with
    | zero => simp at length
    | succ steps =>
      rw [List.length_append, List.length_singleton] at length
      rw [extensionChain_step h found, ih (by omega), List.filterMap_append, List.reverse_append,
        single]

/-! ## Content -/

theorem reads_empty : s.Reads .empty [] := ⟨fun _ => rfl, fun ne => absurd rfl ne⟩

theorem reads_elements {p : Particle ElementDecl} {ps : List (Particle ElementDecl)} (ne : ps ≠ [])
    (h : ∀ names, (ContentMatcher.ofParticle s.globals p).Accepts names ↔
      (ContentMatcher.ofParticle s.globals (.once (.sequence ps))).Accepts names) :
    s.Reads (.elements (.ofParticle s.globals p)) ps :=
  ⟨fun eq => absurd eq ne, fun _ => ⟨_, rfl, h⟩⟩

theorem Plain.all_eq_none (h : s.Plain type) {p : Particle ElementDecl}
    (hp : type.particle? = some p) : s.globals.topLevelAll? groupDepth p = none := by
  unfold ComplexType.particle? at hp
  rcases h with content | ⟨q, content, plain⟩
  · rw [content] at hp
    cases hp
  · rw [content] at hp
    cases hp
    exact plain

theorem reads_ownContent (h : s.Plain type) :
    s.Reads (s.ownContent type) ([type].filterMap ComplexType.particle?) := by
  rcases h with content | ⟨p, content, plain⟩
  · have none : type.particle? = none := by rw [ComplexType.particle?, content]
    rw [ownContent, content, List.filterMap_cons_none none]
    exact reads_empty
  · have some : type.particle? = some p := by rw [ComplexType.particle?, content]
    rw [ownContent, content, List.filterMap_cons_some some]
    exact reads_elements (by simp) (Globals.accepts_sequence_singleton plain)

/-- What an extension inherits is a particle that is as good as the particles in its chain. -/
theorem exists_baseParticle? {ps : List (Particle ElementDecl)} (model : CompiledModel)
    (found : s.typeDef? name = some (.complex base))
    (chain : (s.extensionChain steps base).reverse = ps) (ne : ps ≠ [])
    (plain : ∀ p ∈ ps, s.globals.topLevelAll? groupDepth p = none) :
    ∃ b, s.baseParticle? steps name (.elements model) = some b ∧
      (∀ names, (ContentMatcher.ofParticle s.globals b).Accepts names ↔
        (ContentMatcher.ofParticle s.globals (.once (.sequence ps))).Accepts names) ∧
      ∀ o names, (ContentMatcher.ofParticle s.globals (.once (.sequence [b, o]))).Accepts names ↔
        (ContentMatcher.ofParticle s.globals (.once (.sequence (ps ++ [o])))).Accepts names := by
  unfold baseParticle?
  rw [found]
  dsimp only
  rw [chain]
  cases ps with
  | nil => exact absurd rfl ne
  | cons b ps =>
    cases ps with
    | nil =>
      exact ⟨b, rfl, Globals.accepts_sequence_singleton (plain b (by simp)), fun _ _ => Iff.rfl⟩
    | cons c rest =>
      exact ⟨_, rfl, fun _ => Iff.rfl, Globals.accepts_sequence_nested (b :: c :: rest)⟩

theorem baseParticle?_empty (s : SchemaSet) (steps : Nat) (name : QName) :
    s.baseParticle? steps name .empty = none := by
  unfold baseParticle?
  cases s.typeDef? name with
  | none => rfl
  | some definition => cases definition <;> rfl

/-- The content of an extension, if the content of the base consists of the particles of its
chain. -/
theorem reads_extended {effective : EffectiveType} {ps : List (Particle ElementDecl)}
    (h : s.Plain type) (found : s.typeDef? name = some (.complex base))
    (chain : (s.extensionChain steps base).reverse = ps) (reads : s.Reads effective.content ps)
    (plain : ∀ p ∈ ps, s.globals.topLevelAll? groupDepth p = none) :
    s.Reads (s.extended steps type name effective).content
      (ps ++ [type].filterMap ComplexType.particle?) := by
  by_cases none : ps = []
  · have empty := reads.1 none
    have own := reads_ownContent h
    rw [none, List.nil_append]
    rcases h with content | ⟨p, content, -⟩
    · simp only [extended, content, empty, baseParticle?_empty, extendedContent]
      rwa [ownContent, content] at own
    · simp only [extended, content, empty, baseParticle?_empty, extendedContent]
      rwa [ownContent, content] at own
  · obtain ⟨model, elements, -⟩ := reads.2 none
    obtain ⟨b, inherited, alone, followed⟩ := exists_baseParticle? model found chain none plain
    rw [← elements] at inherited
    rcases h with content | ⟨p, content, -⟩
    · have no_own : type.particle? = .none := by rw [ComplexType.particle?, content]
      rw [List.filterMap_cons_none no_own]
      simp only [extended, content, inherited, extendedContent, List.filterMap_nil, List.append_nil]
      exact reads_elements none alone
    · have own : type.particle? = some p := by rw [ComplexType.particle?, content]
      rw [List.filterMap_cons_some own]
      simp only [extended, content, inherited, extendedContent, List.filterMap_nil]
      exact reads_elements (by simp) (followed p)

/-! ## Effective types -/

theorem flattenedBase?_of_extension (h : type.base = some (name, .extension))
    (outside : name.namespaceName ≠ schemaNamespace)
    (found : s.typeDef? name = some (.complex base)) :
    s.flattenedBase? type = some (name, base, .extension) := by
  have ne : name ≠ .schema "anyType" := by
    rintro rfl
    exact outside rfl
  unfold flattenedBase?
  rw [h]
  dsimp only
  rw [if_neg ne, resolve, if_neg outside, found]

theorem base_of_flattenedBase? {method : DerivationMethod}
    (h : s.flattenedBase? type = some (name, base, method)) : type.base = some (name, method) := by
  unfold flattenedBase? at h
  cases hbase : type.base with
  | none =>
    rw [hbase] at h
    cases h
  | some derivation =>
    obtain ⟨name', method'⟩ := derivation
    rw [hbase] at h
    dsimp only at h
    by_cases any : name' = .schema "anyType"
    · rw [if_pos any] at h
      cases h
    · rw [if_neg any] at h
      cases hresolve : s.resolve (.named name') with
      | none =>
        rw [hresolve] at h
        cases h
      | some definition =>
        rw [hresolve] at h
        cases definition <;> cases h
        rfl

/-- The form of a type that is no extension comes from the type alone. -/
theorem flattenWithin_root (no_extension : ∀ name, type.base ≠ some (name, .extension))
    (steps : Nat) : (s.flattenWithin steps type).content = s.ownContent type ∧
      (s.flattenWithin steps type).mixed = type.mixed := by
  cases steps with
  | zero => exact ⟨rfl, rfl⟩
  | succ steps =>
    rw [flattenWithin]
    cases hbase : s.flattenedBase? type with
    | none => exact ⟨rfl, rfl⟩
    | some derivation =>
      obtain ⟨name, base, method⟩ := derivation
      cases method with
      | restriction => exact ⟨rfl, rfl⟩
      | extension => exact absurd (base_of_flattenedBase? hbase) (no_extension name)

/-- The effective form of the type at the end of a chain. -/
theorem Extends.flattenWithin_spec (h : s.Extends types type) (length : types.length ≤ steps + 1)
    (plain : ∀ t ∈ types, s.Plain t) :
    s.Reads (s.flattenWithin steps type).content (types.filterMap ComplexType.particle?) ∧
      (s.flattenWithin steps type).mixed = types.any ComplexType.mixed := by
  induction h generalizing steps with
  | @root type no_extension =>
    obtain ⟨content, mixed⟩ := flattenWithin_root (s := s) no_extension steps
    rw [content, mixed]
    exact ⟨reads_ownContent (plain type (by simp)), by simp⟩
  | @step types base type name rest h outside found ih =>
    have nonempty := rest.length_pos
    rw [List.length_append, List.length_singleton] at length
    obtain ⟨steps, rfl⟩ : ∃ n, steps = n + 1 := Nat.exists_eq_succ_of_ne_zero (by omega)
    have plain_types (t : ComplexType) (ht : t ∈ types) : s.Plain t :=
      plain t (List.mem_append_left _ ht)
    have length_types : types.length ≤ steps + 1 := by omega
    obtain ⟨reads, mixed⟩ := ih length_types plain_types
    have flat : s.flattenWithin (steps + 1) type =
        s.extended (steps + 1) type name (s.flattenWithin steps base) := by
      rw [flattenWithin, flattenedBase?_of_extension h outside found]
    have chain : (s.extensionChain (steps + 1) base).reverse =
        types.filterMap ComplexType.particle? := by
      rw [rest.extensionChain_eq (by omega), List.reverse_reverse]
    have plain_ps (p : Particle ElementDecl) (hp : p ∈ types.filterMap ComplexType.particle?) :
        s.globals.topLevelAll? groupDepth p = none := by
      obtain ⟨t, ht, particle⟩ := List.mem_filterMap.1 hp
      exact (plain_types t ht).all_eq_none particle
    rw [flat, List.filterMap_append, List.any_append]
    refine ⟨reads_extended (plain type (by simp)) found chain reads plain_ps, ?_⟩
    rw [extended, mixed, Bool.or_comm]
    simp

/-- The effective form of a type at the end of a chain of extensions has the particles of the chain
as its content, in a row, and is mixed if one of the types in the chain is. -/
theorem effectiveType_of_extends (s : SchemaSet) (reachable : s.Reachable) (name : QName)
    (type : ComplexType) (found : s.typeDef? name = some (.complex type)) (types : List ComplexType)
    (chain : s.Extends types type) (length : types.length ≤ baseDepth + 1)
    (plain : ∀ t ∈ types, t.content = .empty ∨
      ∃ p, t.content = .particle p ∧ s.globals.topLevelAll? groupDepth p = none) :
    let effective := (s.effectiveType type).1
    let particles := types.filterMap ComplexType.particle?
    (particles = [] → effective.content = .empty) ∧
    (particles ≠ [] → ∃ model, effective.content = .elements model ∧
      ∀ names, (ContentMatcher.ofModel model).Accepts names ↔
        (ContentMatcher.ofParticle s.globals (.once (.sequence particles))).Accepts names) ∧
    (effective.mixed = true ↔ ∃ t ∈ types, t.mixed = true) := by
  intro effective particles
  have flat : effective = s.flattenWithin baseDepth type :=
    (reachable.remembers.effectiveType (holds_of_typeDef? found)).1
  obtain ⟨⟨empty, elements⟩, mixed⟩ := chain.flattenWithin_spec length plain
  rw [flat, mixed, List.any_eq_true]
  exact ⟨empty, elements, Iff.rfl⟩

/-- A mixed type, and a type that extends it. -/
def sampleChain : SchemaSource :=
  SchemaSource.ofFiles [(.ofText "/s", .ok (
    "<x:schema xmlns:x='http://www.w3.org/2001/XMLSchema'><x:complexType name='a' mixed='true'/>" ++
    "<x:complexType name='t'><x:complexContent><x:extension base='a'><x:sequence><x:any/>" ++
    "</x:sequence></x:extension></x:complexContent></x:complexType></x:schema>"))]

/-- A complex type with the given base, mixed or not, with a particle or without content. -/
def isPlain (s : SchemaSet) (base : Option (QName × DerivationMethod)) (mixed particle : Bool) :
    TypeDef → Bool
  | .simple _ => false
  | .complex type => type.base = base && type.mixed = mixed &&
    match type.content with
    | .empty => !particle
    | .simple _ => false
    | .particle p => particle && (s.globals.topLevelAll? groupDepth p).isNone

theorem exists_of_isPlain {base : Option (QName × DerivationMethod)} {mixed particle : Bool}
    (h : (s.typeDef? name).any (s.isPlain base mixed particle) = true) :
    ∃ type, s.typeDef? name = some (.complex type) ∧ type.base = base ∧ type.mixed = mixed ∧
      s.Plain type ∧ type.particle?.isSome = particle := by
  cases found : s.typeDef? name with
  | none => simp [found] at h
  | some definition =>
    cases definition with
    | simple type => simp [found, isPlain] at h
    | complex type =>
      simp only [found, Option.any_some, isPlain, Bool.and_eq_true, decide_eq_true_eq] at h
      obtain ⟨⟨hbase, hmixed⟩, hcontent⟩ := h
      refine ⟨type, rfl, hbase, hmixed, ?_⟩
      unfold Plain ComplexType.particle?
      cases content : type.content <;> simp_all

/-- The particles of both types are in a row, and the second is mixed because the first is. -/
theorem effectiveType_of_extends_sample :
    let s := ((({} : SchemaSet).add ⟨"", .ofText "/s"⟩).2.compile sampleChain).2
    ∃ a type p q model, s.Extends [a, type] type ∧ [a, type].length ≤ baseDepth + 1 ∧
      (∀ t ∈ [a, type], s.Plain t) ∧ [a, type].filterMap ComplexType.particle? = [p, q] ∧
      (s.effectiveType type).1.content = .elements model ∧
      (∀ names, (ContentMatcher.ofModel model).Accepts names ↔
        (ContentMatcher.ofParticle s.globals (.once (.sequence [p, q]))).Accepts names) ∧
      (s.effectiveType type).1.mixed = true := by
  intro s
  have reachable : s.Reachable := (Reachable.new.add _).compile _
  obtain ⟨first, second⟩ :
      (s.typeDef? ⟨"", "a"⟩).any (s.isPlain none true true) = true ∧
      (s.typeDef? ⟨"", "t"⟩).any (s.isPlain (some (⟨"", "a"⟩, .extension)) false true) = true := by
    decide +kernel
  clear_value s
  obtain ⟨a, found_a, base_a, mixed_a, plain_a, particle_a⟩ := exists_of_isPlain first
  obtain ⟨t, found_t, base_t, -, plain_t, particle_t⟩ := exists_of_isPlain second
  obtain ⟨p, hp⟩ := Option.isSome_iff_exists.1 particle_a
  obtain ⟨q, hq⟩ := Option.isSome_iff_exists.1 particle_t
  have outside : "" ≠ schemaNamespace := by decide
  have chain : s.Extends [a, t] t :=
    (Extends.root (by simp [base_a])).step base_t outside found_a
  have length : [a, t].length ≤ baseDepth + 1 := by
    change 2 ≤ baseDepth + 1
    decide
  have plain : ∀ t' ∈ [a, t], s.Plain t' := by simp [plain_a, plain_t]
  have particles : [a, t].filterMap ComplexType.particle? = [p, q] := by
    rw [List.filterMap_cons_some hp, List.filterMap_cons_some hq, List.filterMap_nil]
  obtain ⟨-, elements, mixed⟩ := effectiveType_of_extends s reachable ⟨"", "t"⟩ t found_t
    [a, t] chain length plain
  rw [particles] at elements
  obtain ⟨model, content, accepts⟩ := elements (by simp)
  exact ⟨a, t, p, q, model, chain, length, plain, particles, content, accepts,
    mixed.2 ⟨a, by simp, mixed_a⟩⟩

end SchemaSet

end XmlSchema

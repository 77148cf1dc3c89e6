import XmlSchema.Proofs.Component.Parts
import XmlSchema.Proofs.Content.Matching

/-!
# The language of a content model

A particle stands for a language over the names of child elements (`Globals.language`): elements
are words of one name, sequences and choices are products and unions, and occurrence bounds are
repetitions.  The bounds count as compiled: a minimum as at most 64, and a maximum above 128 as no
maximum.  References to model groups are followed to a depth of 16.

The automaton of a particle reads this language (`Globals.reads_particle`).  So the matcher of a
particle accepts only words of its language, and all of them if there are no wildcards.
-/

namespace XmlSchema

open Computability Transitions Fragment

/-! ## Languages -/

section Languages

variable (globals : Globals) (group : QName → Language QName)

mutual

/-- The words of a particle; `group` gives those of the groups it refers to. -/
def Particle.language : Particle ElementDecl → Language QName
  | ⟨min, .bounded n, term⟩ =>
    repetitions term.language (Nat.min min 64)
      (if n ≤ 128 then some (Nat.max n (Nat.min min 64)) else none)
  | ⟨min, .unbounded, term⟩ => repetitions term.language (Nat.min min 64) none

/-- The words of a term. -/
def Term.language : Term ElementDecl → Language QName
  | .element declaration => {[declaration.name]}
  | .elementRef name => {[(globals.element name).name]}
  | .wildcard wildcard => Leaf.language (.wildcard wildcard)
  | .sequence items => (Particle.languages items).prod
  | .choice items => (Particle.languages items).sum
  | .all items => (Particle.termLanguages items).sum∗
  | .groupRef name => group name

/-- The languages of several particles. -/
def Particle.languages : List (Particle ElementDecl) → List (Language QName)
  | [] => []
  | p :: ps => p.language :: Particle.languages ps

/-- The languages of the terms of several particles. -/
def Particle.termLanguages : List (Particle ElementDecl) → List (Language QName)
  | [] => []
  | ⟨_, _, term⟩ :: ps => term.language :: Particle.termLanguages ps

end

end Languages

namespace Globals

/-- The words of a reference to a model group, when references may be nested so deep; beyond that,
and when there is no such group, the empty word. -/
def groupLanguage (globals : Globals) : Nat → QName → Language QName
  | 0, _ => 1
  | levels + 1, name =>
    match globals.group? name with
    | some p => p.language globals (globals.groupLanguage levels)
    | none => 1

/-- The words that a particle stands for. -/
def language (globals : Globals) (p : Particle ElementDecl) : Language QName :=
  p.language globals (globals.groupLanguage 16)

end Globals

/-! ## Nested particles -/

/-- The third particle is nested in the first, inside so many references to model groups. -/
inductive Globals.Nested (globals : Globals) :
    Particle ElementDecl → Nat → Particle ElementDecl → Prop where
  | refl (p : Particle ElementDecl) : Nested globals p 0 p
  | member {p q r : Particle ElementDecl} {n : Nat} (mem : q ∈ p.term.members)
    (rest : Nested globals q n r) : Nested globals p n r
  | group {p q r : Particle ElementDecl} {name : QName} {n : Nat} (ref : p.term = .groupRef name)
    (found : globals.group? name = some q) (rest : Nested globals q n r) :
    Nested globals p (n + 1) r

/-! ## Compilation -/

section Compilation

variable {P : Leaf → Prop} {f : Fragment} {L : Language QName}

theorem Fragment.Reads.occurs (hf : Reads P f L) (min : Nat) (max : MaxOccurs) :
    Reads P (occurs min max f)
      (repetitions L (Nat.min min expandedMin) (max.expanded? (Nat.min min expandedMin))) := by
  unfold Fragment.occurs
  generalize Nat.min min expandedMin = min
  dsimp only
  cases h : max.expanded? min with
  | none =>
    have := (hf.times min).andThen hf.star
    rwa [← repetitions_none, repetitions_add] at this
  | some n =>
    have hmin : min ≤ n := by
      cases max with
      | unbounded => simp [MaxOccurs.expanded?] at h
      | bounded m =>
        simp only [MaxOccurs.expanded?, Option.ite_none_right_eq_some, Option.some.injEq] at h
        exact h.2 ▸ Nat.le_max_right m min
    cases n with
    | zero =>
      obtain rfl : min = 0 := by omega
      rw [repetitions_zero]
      exact reads_skip
    | succ n =>
      have := (hf.times min).andThen (hf.upTo (n + 1 - min))
      rwa [repetitions_add, Option.map_some, Nat.add_sub_cancel' hmin] at this

theorem Particle.language_eq (globals : Globals) (group : QName → Language QName) (min : Nat)
    (max : MaxOccurs) (term : Term ElementDecl) :
    Particle.language globals group ⟨min, max, term⟩ =
      repetitions (term.language globals group) (Nat.min min expandedMin)
        (max.expanded? (Nat.min min expandedMin)) := by
  cases max <;> rw [Particle.language] <;> rfl

theorem Particle.languages_eq_map (globals : Globals) (group : QName → Language QName)
    (items : List (Particle ElementDecl)) :
    Particle.languages globals group items = items.map (Particle.language globals group) := by
  induction items with
  | nil => rfl
  | cons p items ih => rw [Particle.languages, ih, List.map_cons]

theorem Particle.termLanguages_eq_map (globals : Globals) (group : QName → Language QName)
    (items : List (Particle ElementDecl)) :
    Particle.termLanguages globals group items =
      items.map fun p => p.term.language globals group := by
  induction items with
  | nil => rfl
  | cons p items ih =>
    obtain ⟨min, max, term⟩ := p
    rw [Particle.termLanguages, ih, List.map_cons]

theorem Leaf.language_element (declaration : ElementDecl) :
    Leaf.language (.element declaration) = {[declaration.name]} := by
  ext w
  simp only [Leaf.language, Leaf.admits, beq_iff_eq]
  constructor
  · rintro ⟨_, rfl, rfl⟩
    rfl
  · rintro rfl
    exact ⟨_, rfl, rfl⟩

namespace Globals

variable {globals : Globals} {levels : Nat}

/-- The leaves that are nested in a particle, inside at most so many references to model groups,
satisfy `P`. -/
def LeavesIn (globals : Globals) (P : Leaf → Prop) (levels : Nat) (p : Particle ElementDecl) :
    Prop :=
  ∀ n q leaf, n ≤ levels → globals.Nested p n q → globals.leaf? q.term = some leaf → P leaf

theorem LeavesIn.self {p : Particle ElementDecl} {leaf : Leaf} (h : globals.LeavesIn P levels p)
    (found : globals.leaf? p.term = some leaf) : P leaf :=
  h 0 p leaf (Nat.zero_le _) (.refl p) found

theorem LeavesIn.of_mem {p q : Particle ElementDecl} (h : globals.LeavesIn P levels p)
    (hq : q ∈ p.term.members) : globals.LeavesIn P levels q :=
  fun n r leaf hn nested => h n r leaf hn (.member hq nested)

theorem LeavesIn.of_group {p q : Particle ElementDecl} {name : QName}
    (h : globals.LeavesIn P (levels + 1) p) (ref : p.term = .groupRef name)
    (found : globals.group? name = some q) : globals.LeavesIn P levels q :=
  fun n r leaf hn nested => h (n + 1) r leaf (by omega) (.group ref found nested)

/-- A particle without wildcards has no leaves but elements. -/
theorem leavesIn_isElement {p : Particle ElementDecl}
    (no_wildcard : ∀ n ≤ levels, ∀ q wildcard, globals.Nested p n q →
      q.term ≠ .wildcard wildcard) :
    globals.LeavesIn (fun leaf => leaf.isElement = true) levels p := by
  intro n q leaf hn nested found
  cases hq : q.term with
  | wildcard wildcard => exact absurd hq (no_wildcard n hn q wildcard nested)
  | element declaration =>
    rw [hq] at found
    exact Option.some.inj found ▸ rfl
  | elementRef name =>
    rw [hq] at found
    exact Option.some.inj found ▸ rfl
  | _ => simp [hq, leaf?] at found

/-- The groups that particles refer to read their languages, if the leaves in them satisfy `P`. -/
def GroupsRead (globals : Globals) (P : Leaf → Prop) (levels : Nat) : Prop :=
  ∀ p name, globals.LeavesIn P levels p → p.term = .groupRef name →
    Reads P (globals.groupFragment levels name) (globals.groupLanguage levels name)

mutual

theorem reads_particle_step (groups : globals.GroupsRead P levels) :
    ∀ p : Particle ElementDecl, globals.LeavesIn P levels p →
    Reads P (p.fragment globals (globals.groupFragment levels))
      (p.language globals (globals.groupLanguage levels))
  | ⟨min, max, term⟩, h => by
    rw [Particle.language_eq, Particle.fragment]
    exact (reads_term_step groups term min max h).occurs min max

theorem reads_term_step (groups : globals.GroupsRead P levels) :
    ∀ (term : Term ElementDecl) (min : Nat) (max : MaxOccurs),
    globals.LeavesIn P levels ⟨min, max, term⟩ →
    Reads P (term.fragment globals (globals.groupFragment levels))
      (term.language globals (globals.groupLanguage levels))
  | .element declaration, _, _, h => by
    rw [Term.language, Term.fragment, ← Leaf.language_element]
    exact reads_leaf (h.self rfl)
  | .elementRef name, _, _, h => by
    rw [Term.language, Term.fragment, ← Leaf.language_element]
    exact reads_leaf (h.self rfl)
  | .wildcard wildcard, _, _, h => by
    rw [Term.language, Term.fragment]
    exact reads_leaf (h.self rfl)
  | .sequence items, _, _, h => by
    rw [Term.language, Term.fragment]
    exact reads_sequence (reads_items_step groups items fun q hq => h.of_mem hq)
  | .choice items, _, _, h => by
    rw [Term.language, Term.fragment]
    exact reads_choice (reads_items_step groups items fun q hq => h.of_mem hq)
  | .all items, _, _, h => by
    rw [Term.language, Term.fragment]
    exact reads_anyOrder (reads_terms_step groups items fun q hq => h.of_mem hq)
  | .groupRef name, _, _, h => by
    rw [Term.language, Term.fragment]
    exact groups _ name h rfl

theorem reads_items_step (groups : globals.GroupsRead P levels) :
    ∀ items : List (Particle ElementDecl), (∀ q ∈ items, globals.LeavesIn P levels q) →
    List.Forall₂ (Reads P) (Particle.fragments globals (globals.groupFragment levels) items)
      (Particle.languages globals (globals.groupLanguage levels) items)
  | [], _ => .nil
  | p :: ps, h => .cons (reads_particle_step groups p (h p (by simp)))
      (reads_items_step groups ps fun q hq => h q (by simp [hq]))

theorem reads_terms_step (groups : globals.GroupsRead P levels) :
    ∀ items : List (Particle ElementDecl), (∀ q ∈ items, globals.LeavesIn P levels q) →
    List.Forall₂ (Reads P) (Particle.termFragments globals (globals.groupFragment levels) items)
      (Particle.termLanguages globals (globals.groupLanguage levels) items)
  | [], _ => .nil
  | ⟨min, max, term⟩ :: ps, h => .cons (reads_term_step groups term min max (h _ (by simp)))
      (reads_terms_step groups ps fun q hq => h q (by simp [hq]))

end

/-- The fragment of a particle reads its language, at every depth of references. -/
theorem reads_particle (levels : Nat) (p : Particle ElementDecl)
    (h : globals.LeavesIn P levels p) :
    Reads P (p.fragment globals (globals.groupFragment levels))
      (p.language globals (globals.groupLanguage levels)) := by
  induction levels generalizing p with
  | zero => exact reads_particle_step (fun _ _ _ _ => reads_skip) p h
  | succ levels ih =>
    -- the step goes down the particle, and only references are left to the levels below
    refine reads_particle_step (fun q name hq ref => ?_) p h
    rw [groupFragment, groupLanguage]
    cases found : globals.group? name with
    | none => exact reads_skip
    | some r => exact ih r (hq.of_group ref found)

end Globals

/-! ## Acceptance -/

theorem Graph.wellFormed_initial : Graph.initial.WellFormed := by
  constructor
  · intro s t ht
    cases s <;> simp [Graph.initial, Graph.silentFrom] at ht
  · intro s i t ht
    cases s <;> simp [Graph.initial, Graph.edgesFrom] at ht

theorem Graph.transitions_initial : Graph.initial.transitions = ∅ := by
  ext ⟨s, _ | leaf, t⟩
  · cases s <;> simp [Graph.mem_transitions_none, Graph.initial, Graph.silentFrom]
  · cases s <;> simp [Graph.mem_transitions_some, Graph.initial, Graph.edgesFrom]

/-- The automaton of a fragment reads what the fragment reads. -/
theorem Fragment.Reads.toAutomaton (hf : Reads P f L) :
    f.toAutomaton.WellFormed ∧ f.toAutomaton.start < f.toAutomaton.states.size ∧
      (∀ s leaf t, (s, some leaf, t) ∈ f.toAutomaton.transitions → P leaf) ∧
      f.toAutomaton.transitions.words f.toAutomaton.start {f.toAutomaton.accept} = L := by
  obtain ⟨E, grown, -, -, reads⟩ := hf Graph.initial 0 Graph.wellFormed_initial (by decide)
  have htransitions : f.toAutomaton.transitions = E := by
    have := grown.transitions_eq
    rwa [Graph.transitions_initial, Set.empty_union] at this
  have hsize : 0 < f.toAutomaton.states.size :=
    lt_of_lt_of_le (by decide) grown.size_le
  rw [htransitions]
  exact ⟨grown.wellFormed, hsize, grown.leaves, reads⟩

namespace Globals

variable {globals : Globals} {p : Particle ElementDecl} {w : List QName}

/-- The automaton of a particle reads its language. -/
theorem reads_automaton (h : globals.LeavesIn P 16 p) :
    (globals.automaton p).WellFormed ∧
      (∀ s ∈ [(globals.automaton p).start], s < (globals.automaton p).states.size) ∧
      (∀ s leaf t, (s, some leaf, t) ∈ (globals.automaton p).transitions → P leaf) ∧
      ∀ w, Walk (globals.automaton p).transitions (globals.automaton p).start w
        (globals.automaton p).accept ↔ w ∈ globals.language p := by
  obtain ⟨wellFormed, hstart, leaves, words_eq⟩ := (reads_particle 16 p h).toAutomaton
  refine ⟨wellFormed, fun s hs => List.mem_singleton.1 hs ▸ hstart, leaves, fun w => ?_⟩
  unfold language
  rw [← words_eq]
  exact mem_words_singleton.symm

/-- The automaton of a particle accepts only words of its language. -/
theorem mem_language_of_accepts
    (h : (ContentMatcher.ofModel (.automaton (globals.automaton p))).Accepts w) :
    w ∈ globals.language p := by
  have any_leaf : globals.LeavesIn (fun _ => True) 16 p := fun _ _ _ _ _ _ => trivial
  obtain ⟨wellFormed, hseeds, -, reads⟩ := reads_automaton any_leaf
  obtain ⟨s, hs, walk⟩ := ContentMatcher.exists_walk_of_accepts wellFormed h
  obtain ⟨r, hr, reach⟩ := (Graph.mem_closure wellFormed hseeds).1 hs
  obtain rfl := List.mem_singleton.1 hr
  rw [← reads]
  exact (ContentMatcher.walk_of_silentReach reach).trans walk

/-- The automaton of a particle without wildcards accepts all words of its language. -/
theorem accepts_of_mem_language
    (no_wildcard : ∀ n ≤ 16, ∀ q wildcard, globals.Nested p n q → q.term ≠ .wildcard wildcard)
    (h : w ∈ globals.language p) :
    (ContentMatcher.ofModel (.automaton (globals.automaton p))).Accepts w := by
  obtain ⟨wellFormed, hseeds, elements, reads⟩ :=
    reads_automaton (leavesIn_isElement no_wildcard)
  exact ContentMatcher.accepts_of_walk wellFormed elements
    (ContentMatcher.silentClosed_closure wellFormed hseeds)
    (ContentMatcher.mem_closure_of_mem wellFormed hseeds (by simp)) ((reads w).2 h)

/-- A particle is compiled into its automaton, unless it is an `all` group. -/
theorem eq_automaton_of_ofParticle {a : Automaton}
    (h : CompiledModel.ofParticle globals p = .automaton a) : a = globals.automaton p := by
  unfold CompiledModel.ofParticle at h
  split at h
  · simp at h
  · exact (CompiledModel.automaton.inj h).symm

/-- The matcher of a particle that becomes an automaton accepts only words of the language of the
particle; without wildcards, it accepts all of them. -/
theorem accepts_iff_mem_language (globals : Globals) (p : Particle ElementDecl) (a : Automaton)
    (compiled : CompiledModel.ofParticle globals p = .automaton a) (w : List QName) :
    ((ContentMatcher.ofParticle globals p).Accepts w → w ∈ globals.language p) ∧
      ((∀ n ≤ 16, ∀ q wildcard, globals.Nested p n q → q.term ≠ .wildcard wildcard) →
        w ∈ globals.language p → (ContentMatcher.ofParticle globals p).Accepts w) := by
  unfold ContentMatcher.ofParticle
  rw [compiled, eq_automaton_of_ofParticle compiled]
  exact ⟨mem_language_of_accepts, accepts_of_mem_language⟩

/-- A choice, repeated at least once, between an element and up to two of another. -/
theorem accepts_iff_mem_language_choice :
    let globals : Globals := ⟨fun _ => none, fun _ => none⟩
    let p : Particle ElementDecl := ⟨1, .unbounded, .choice
      [⟨1, .bounded 1, .elementRef ⟨"", "a"⟩⟩, ⟨0, .bounded 2, .elementRef ⟨"", "b"⟩⟩]⟩
    CompiledModel.ofParticle globals p = .automaton (globals.automaton p) ∧
      (∀ n ≤ 16, ∀ q wildcard, globals.Nested p n q → q.term ≠ .wildcard wildcard) ∧
      ∀ w, (ContentMatcher.ofParticle globals p).Accepts w ↔ w ∈ globals.language p := by
  intro globals p
  have no_wildcard : ∀ n ≤ 16, ∀ q wildcard, globals.Nested p n q →
      q.term ≠ .wildcard wildcard := by
    rintro n - q wildcard nested
    cases nested with
    | refl => simp [p]
    | member mem rest =>
      simp only [p, Term.members, List.mem_cons, List.not_mem_nil, or_false] at mem
      rcases mem with rfl | rfl <;> cases rest with
      | refl => simp
      | member mem _ => simp [Term.members] at mem
      | group ref found _ => simp [globals] at found
    | group ref found _ => simp [globals] at found
  refine ⟨rfl, no_wildcard, fun w => ⟨?_, ?_⟩⟩
  · exact (accepts_iff_mem_language globals p _ rfl w).1
  · exact (accepts_iff_mem_language globals p _ rfl w).2 no_wildcard

end Globals

end Compilation

end XmlSchema

import XmlSchema.Proofs.Content.Exactness
import XmlSchema.Proofs.Content.Expectation
import XmlSchema.Proofs.Content.Exposure

/-!
# Particles that may not occur

Which names a matcher takes at all, in one state or another, is a property of its particle
(`Globals.Matchable`).  A leaf of the automaton is taken in some state if it is within reach
(`Globals.Reaches`): no particle above it has a maximum of 0, and what comes before it in a sequence
can be passed.  The bounds of the members of an `all` group do not count here, and those of an `all`
group at the top do not count either.

So a maximum of 0 keeps an element out of the content only where it does not stand on such a member
or group (`Globals.HeedsZero`).
-/

namespace XmlSchema

open Computability Transitions Fragment

/-- The bounds of the particle are 0 and 0. -/
def Particle.IsVoid {α : Type} (p : Particle α) : Prop := p.min = 0 ∧ p.max = .bounded 0

namespace Globals

/-! ## Leaves within reach of a term -/

/-- The leaf is within reach of the term, inside at most so many references to model groups.  The
bounds of members count in sequences and choices, but not in `all` groups. -/
inductive Reaches (globals : Globals) (leaf : Leaf) : Nat → Term ElementDecl → Prop where
  | leaf {levels : Nat} {term : Term ElementDecl} (found : globals.leaf? term = some leaf) :
    Reaches globals leaf levels term
  | sequence {levels : Nat} {p : Particle ElementDecl}
    {before after items : List (Particle ElementDecl)} (split : items = before ++ p :: after)
    (passed : ∀ q ∈ before, (q.language globals (globals.groupLanguage levels)).Nonempty)
    (occurs : ¬ p.IsVoid) (rest : Reaches globals leaf levels p.term) :
    Reaches globals leaf levels (.sequence items)
  | choice {levels : Nat} {p : Particle ElementDecl} {items : List (Particle ElementDecl)}
    (mem : p ∈ items) (occurs : ¬ p.IsVoid) (rest : Reaches globals leaf levels p.term) :
    Reaches globals leaf levels (.choice items)
  | all {levels : Nat} {p : Particle ElementDecl} {items : List (Particle ElementDecl)}
    (mem : p ∈ items) (rest : Reaches globals leaf levels p.term) :
    Reaches globals leaf levels (.all items)
  | group {levels : Nat} {name : QName} {p : Particle ElementDecl}
    (found : globals.group? name = some p) (occurs : ¬ p.IsVoid)
    (rest : Reaches globals leaf levels p.term) :
    Reaches globals leaf (levels + 1) (.groupRef name)

variable {globals : Globals} {levels : Nat} {leaf : Leaf}

theorem setOf_reaches_of_leaf? {term : Term ElementDecl} (found : globals.leaf? term = some leaf) :
    {l | globals.Reaches l levels term} = {leaf} := by
  ext l
  constructor
  · intro reaches
    cases reaches with
    | leaf found' => exact Option.some.inj (found'.symm.trans found)
    | _ => simp [leaf?] at found
  · rintro rfl
    exact .leaf found

theorem not_reaches_nil : ¬ globals.Reaches leaf levels (.sequence []) := by
  intro reaches
  cases reaches with
  | leaf found => simp [leaf?] at found
  | sequence split => simp at split

theorem reaches_cons {p : Particle ElementDecl} {ps : List (Particle ElementDecl)} :
    globals.Reaches leaf levels (.sequence (p :: ps)) ↔
      (¬ p.IsVoid ∧ globals.Reaches leaf levels p.term) ∨
        (p.language globals (globals.groupLanguage levels)).Nonempty ∧
          globals.Reaches leaf levels (.sequence ps) := by
  constructor
  · intro reaches
    cases reaches with
    | leaf found => simp [leaf?] at found
    | @sequence _ q before after _ split passed occurs rest =>
      cases before with
      | nil =>
        obtain ⟨rfl, -⟩ := List.cons.inj split
        exact .inl ⟨occurs, rest⟩
      | cons first before =>
        obtain ⟨rfl, behind⟩ := List.cons.inj split
        have passed := List.forall_mem_cons.1 passed
        exact .inr ⟨passed.1, .sequence behind passed.2 occurs rest⟩
  · rintro (⟨occurs, rest⟩ | ⟨passed, rest⟩)
    · exact .sequence (List.nil_append _).symm (by simp) occurs rest
    · cases rest with
      | leaf found => simp [leaf?] at found
      | @sequence _ q before after _ split passed' occurs rest =>
        have split : p :: ps = (p :: before) ++ q :: after := by rw [split, List.cons_append]
        exact .sequence split (List.forall_mem_cons.2 ⟨passed, passed'⟩) occurs rest

theorem reaches_choice {items : List (Particle ElementDecl)} :
    globals.Reaches leaf levels (.choice items) ↔
      ∃ p ∈ items, ¬ p.IsVoid ∧ globals.Reaches leaf levels p.term := by
  constructor
  · intro reaches
    cases reaches with
    | leaf found => simp [leaf?] at found
    | choice mem occurs rest => exact ⟨_, mem, occurs, rest⟩
  · rintro ⟨p, mem, occurs, rest⟩
    exact .choice mem occurs rest

theorem reaches_all {items : List (Particle ElementDecl)} :
    globals.Reaches leaf levels (.all items) ↔
      ∃ p ∈ items, globals.Reaches leaf levels p.term := by
  constructor
  · intro reaches
    cases reaches with
    | leaf found => simp [leaf?] at found
    | all mem rest => exact ⟨_, mem, rest⟩
  · rintro ⟨p, mem, rest⟩
    exact .all mem rest

theorem not_reaches_group_zero {name : QName} : ¬ globals.Reaches leaf 0 (.groupRef name) := by
  intro reaches
  cases reaches with
  | leaf found => simp [leaf?] at found

theorem reaches_group_succ {name : QName} :
    globals.Reaches leaf (levels + 1) (.groupRef name) ↔
      ∃ p, globals.group? name = some p ∧ ¬ p.IsVoid ∧ globals.Reaches leaf levels p.term := by
  constructor
  · intro reaches
    cases reaches with
    | leaf found => simp [leaf?] at found
    | group found occurs rest => exact ⟨_, found, occurs, rest⟩
  · rintro ⟨p, found, occurs, rest⟩
    exact .group found occurs rest

/-! ## What the automaton exposes -/

/-- The groups that particles refer to expose the leaves within reach. -/
def GroupsExpose (globals : Globals) (levels : Nat) : Prop :=
  ∀ name, (globals.groupFragment levels name).Exposes (globals.groupLanguage levels name)
    {leaf | globals.Reaches leaf levels (.groupRef name)}

mutual

theorem exposes_particle_step (groups : globals.GroupsExpose levels) :
    ∀ p : Particle ElementDecl,
    (p.fragment globals (globals.groupFragment levels)).Exposes
      (p.language globals (globals.groupLanguage levels))
      {leaf | ¬ p.IsVoid ∧ globals.Reaches leaf levels p.term}
  | ⟨min, max, term⟩ => by
    rw [Particle.language_eq, Particle.fragment]
    exact (exposes_term_step groups term).occurs min max

theorem exposes_term_step (groups : globals.GroupsExpose levels) : ∀ term : Term ElementDecl,
    (term.fragment globals (globals.groupFragment levels)).Exposes
      (term.language globals (globals.groupLanguage levels))
      {leaf | globals.Reaches leaf levels term}
  | .element declaration => by
    rw [setOf_reaches_of_leaf? rfl, Term.language, Term.fragment, ← Leaf.language_element]
    exact exposes_leaf _
  | .elementRef name => by
    rw [setOf_reaches_of_leaf? rfl, Term.language, Term.fragment, ← Leaf.language_element]
    exact exposes_leaf _
  | .wildcard wildcard => by
    rw [setOf_reaches_of_leaf? rfl, Term.language, Term.fragment]
    exact exposes_leaf _
  | .sequence items => by
    rw [Term.language, Term.fragment]
    exact exposes_row_step groups items
  | .choice items => by
    rw [Term.language, Term.fragment, Particle.languages_eq_map]
    simp only [reaches_choice]
    exact exposes_choice (exposes_items_step groups items)
  | .all items => by
    rw [Term.language, Term.fragment, Particle.termLanguages_eq_map]
    simp only [reaches_all]
    exact exposes_anyOrder (exposes_terms_step groups items)
  | .groupRef name => by
    rw [Term.language, Term.fragment]
    exact groups name

theorem exposes_row_step (groups : globals.GroupsExpose levels) :
    ∀ items : List (Particle ElementDecl),
    (sequence (Particle.fragments globals (globals.groupFragment levels) items)).Exposes
      (Particle.languages globals (globals.groupLanguage levels) items).prod
      {leaf | globals.Reaches leaf levels (.sequence items)}
  | [] => by
    simp only [not_reaches_nil, Set.ofPred_false]
    exact exposes_skip
  | p :: ps => by
    rw [Particle.fragments, Particle.languages, List.prod_cons]
    simp only [reaches_cons]
    exact (exposes_particle_step groups p).andThen (exposes_row_step groups ps)

theorem exposes_items_step (groups : globals.GroupsExpose levels) :
    ∀ items : List (Particle ElementDecl),
    List.Forall₂ (fun f p => f.Exposes (p.language globals (globals.groupLanguage levels))
        {leaf | ¬ p.IsVoid ∧ globals.Reaches leaf levels p.term})
      (Particle.fragments globals (globals.groupFragment levels) items) items
  | [] => .nil
  | p :: ps => .cons (exposes_particle_step groups p) (exposes_items_step groups ps)

theorem exposes_terms_step (groups : globals.GroupsExpose levels) :
    ∀ items : List (Particle ElementDecl),
    List.Forall₂ (fun f p => f.Exposes (p.term.language globals (globals.groupLanguage levels))
        {leaf | globals.Reaches leaf levels p.term})
      (Particle.termFragments globals (globals.groupFragment levels) items) items
  | [] => .nil
  | ⟨_, _, term⟩ :: ps => .cons (exposes_term_step groups term) (exposes_terms_step groups ps)

end

/-- The fragment of a particle exposes the leaves within reach, at every depth of references. -/
theorem exposes_particle (levels : Nat) (p : Particle ElementDecl) :
    (p.fragment globals (globals.groupFragment levels)).Exposes
      (p.language globals (globals.groupLanguage levels))
      {leaf | ¬ p.IsVoid ∧ globals.Reaches leaf levels p.term} := by
  induction levels generalizing p with
  | zero =>
    refine exposes_particle_step (fun name => ?_) p
    simp only [not_reaches_group_zero, Set.ofPred_false]
    exact exposes_skip
  | succ levels ih =>
    refine exposes_particle_step (fun name => ?_) p
    rw [groupFragment, groupLanguage]
    simp only [reaches_group_succ]
    cases found : globals.group? name with
    | none =>
      simp only [reduceCtorEq, false_and, exists_false, Set.ofPred_false]
      exact exposes_skip
    | some q =>
      simp only [Option.some.injEq, exists_eq_left']
      exact ih q

theorem exposed_automaton (p : Particle ElementDecl) :
    (globals.automaton p).transitions.exposed (globals.automaton p).start =
      {leaf | ¬ p.IsVoid ∧ globals.Reaches leaf groupDepth p.term} :=
  (exposes_particle groupDepth p).toAutomaton

end Globals

/-! ## What the matcher takes -/

namespace ContentMatcher

variable {a : Automaton} {name : QName}

/-- Behind all calls, the current states of an automaton are ends of walks. -/
theorem exists_walk_of_calls (hg : a.WellFormed) (hstart : a.start < a.states.size)
    (names : List QName) :
    ∃ current, (ofModel (.automaton a)).calls names = .automaton a current ∧
      ∀ s ∈ current, ∃ w, Walk a.transitions a.start w s := by
  refine calls_induction (motive := fun m => ∃ current, m = .automaton a current ∧
    ∀ s ∈ current, ∃ w, Walk a.transitions a.start w s) ?_ ?_ names
  · rintro _ name leaf next ⟨current, rfl, walks⟩ hstep
    obtain ⟨-, -, rfl⟩ := step_automaton_eq_some_iff.1 hstep
    refine ⟨_, rfl, fun r hr => ?_⟩
    obtain ⟨t, ht, reach⟩ := (Graph.mem_closure hg fun t ht => candidates_lt hg ht).1 hr
    obtain ⟨⟨leaf', t⟩, taken, rfl⟩ := List.mem_map.1 ht
    obtain ⟨s, hs, step, admits⟩ := mem_admittingSteps.1 (candidates_subset taken)
    obtain ⟨w, walk⟩ := walks s hs
    exact ⟨w ++ [name], walk.trans (.read step admits (walk_of_silentReach reach))⟩
  · refine ⟨_, rfl, fun r hr => ?_⟩
    obtain ⟨s, hs, reach⟩ := (Graph.mem_closure hg (by simpa using hstart)).1 hr
    obtain rfl := List.mem_singleton.1 hs
    exact ⟨[], walk_of_silentReach reach⟩

/-- Without wildcards, calls follow every walk. -/
theorem exists_mem_calls_of_walk (hg : a.WellFormed)
    (elements : ∀ s leaf t, (s, some leaf, t) ∈ a.transitions → leaf.isElement = true)
    {current : List Nat} (closed : SilentClosed a current) {s r : Nat} {w : List QName}
    (hs : s ∈ current) (walk : Walk a.transitions s w r) :
    ∃ current', (automaton a current).calls w = automaton a current' ∧ r ∈ current' := by
  induction walk generalizing current with
  | refl s => exact ⟨current, rfl, hs⟩
  | silent step _ ih => exact ih closed (closed _ hs _ step)
  | @read s t r leaf name w step admits _ ih =>
    obtain ⟨leaf', next, taken, closed', ht⟩ :=
      exists_step_of_transition hg elements hs step admits
    rw [calls_cons, taken]
    exact ih closed' ht

/-- Without wildcards, an automaton takes the names of the leaves that it exposes. -/
theorem exists_step_automaton_iff (hg : a.WellFormed) (hstart : a.start < a.states.size)
    (elements : ∀ s leaf t, (s, some leaf, t) ∈ a.transitions → leaf.isElement = true) :
    (∃ names, (((ofModel (.automaton a)).calls names).step name).1.isSome = true) ↔
      ∃ leaf ∈ a.transitions.exposed a.start, leaf.admits name = true := by
  constructor
  · rintro ⟨names, taken⟩
    obtain ⟨leaf, hleaf⟩ := Option.isSome_iff_exists.1 taken
    obtain ⟨offer, admits⟩ := offers_of_step (Prod.ext hleaf rfl)
    obtain ⟨current, state, walks⟩ := exists_walk_of_calls hg hstart names
    rw [state] at offer
    cases offer with
    | @edge _ _ s t _ hs step => exact ⟨leaf, ⟨s, t, step, walks s hs⟩, admits⟩
  · rintro ⟨leaf, ⟨s, t, step, w, walk⟩, admits⟩
    have hseeds : ∀ s ∈ [a.start], s < a.states.size := by simpa using hstart
    obtain ⟨current, state, hs⟩ := exists_mem_calls_of_walk hg elements
      (silentClosed_closure hg hseeds) (mem_closure_of_mem hg hseeds List.mem_cons_self) walk
    refine ⟨w, ?_⟩
    have offer : Offers ((ofModel (.automaton a)).calls w) leaf := by
      rw [ofModel, state]
      exact .edge hs step
    exact isSome_step_of_offers offer admits

/-- An `all` group takes the names of its members. -/
theorem exists_step_all_iff {model : AllModel} :
    (∃ names, (((ofModel (.all model)).calls names).step name).1.isSome = true) ↔
      ∃ member ∈ model.members, member.1.admits name = true := by
  constructor
  · rintro ⟨names, taken⟩
    obtain ⟨leaf, hleaf⟩ := Option.isSome_iff_exists.1 taken
    obtain ⟨offer, admits⟩ := offers_of_step (Prod.ext hleaf rfl)
    have state : ∃ seen, (ofModel (.all model)).calls names = .all model seen := by
      refine calls_induction (motive := fun m => ∃ seen, m = .all model seen) ?_ ⟨_, rfl⟩ names
      rintro _ name leaf next ⟨seen, rfl⟩ hstep
      obtain ⟨-, rfl⟩ := Prod.mk.inj hstep
      exact ⟨_, rfl⟩
    obtain ⟨seen, state⟩ := state
    rw [state] at offer
    cases offer with
    | member unseen => exact ⟨_, (List.of_mem_zip unseen).1, admits⟩
  · rintro ⟨⟨leaf, required⟩, mem, admits⟩
    have unseen : ((leaf, required), false) ∈
        model.members.zip (model.members.map fun _ => false) := by
      nth_rewrite 1 [← List.map_id model.members]
      rw [List.zip_map']
      exact List.mem_map.2 ⟨_, mem, rfl⟩
    have offer : Offers (ofModel (.all model)) leaf := .member unseen
    exact ⟨[], isSome_step_of_offers offer admits⟩

end ContentMatcher

/-! ## Maxima of 0 -/

namespace Globals

/-- Children of the name can match in some state of the matcher of the particle.  Of an `all` group
at the top, every member counts. -/
inductive Matchable (globals : Globals) (name : QName) (p : Particle ElementDecl) : Prop where
  | member {items : List (Particle ElementDecl)} {isOptional : Bool} {q : Particle ElementDecl}
    {leaf : Leaf} (top : globals.topLevelAll? groupDepth p = some (items, isOptional))
    (mem : q ∈ items) (found : globals.leaf? q.term = some leaf)
    (admits : leaf.admits name = true) : Matchable globals name p
  | reached {leaf : Leaf} (top : globals.topLevelAll? groupDepth p = none) (occurs : ¬ p.IsVoid)
    (reaches : globals.Reaches leaf groupDepth p.term) (admits : leaf.admits name = true) :
    Matchable globals name p

/-- An element of the name is nested in the particle, inside at most so many references to model
groups, and neither it nor a particle around it has a maximum of 0. -/
inductive Permits (globals : Globals) (name : QName) : Nat → Particle ElementDecl → Prop where
  | leaf {levels : Nat} {p : Particle ElementDecl} {leaf : Leaf} (occurs : p.max ≠ .bounded 0)
    (found : globals.leaf? p.term = some leaf) (admits : leaf.admits name = true) :
    Permits globals name levels p
  | member {levels : Nat} {p q : Particle ElementDecl} (occurs : p.max ≠ .bounded 0)
    (mem : q ∈ p.term.members) (rest : Permits globals name levels q) :
    Permits globals name levels p
  | group {levels : Nat} {p q : Particle ElementDecl} {ref : QName} (occurs : p.max ≠ .bounded 0)
    (term : p.term = .groupRef ref) (found : globals.group? ref = some q)
    (rest : Permits globals name levels q) : Permits globals name (levels + 1) p

/-- Among the particles nested in one, a maximum of 0 comes with a minimum of 0 and does not stand
on members of `all` groups. -/
structure HeedsZeroInside (globals : Globals) (p : Particle ElementDecl) : Prop where
  min_eq : ∀ n q, globals.Nested p n q → q.max = .bounded 0 → q.min = 0
  all_members : ∀ n q items, globals.Nested p n q → q.term = .all items →
    ∀ m ∈ items, m.max ≠ .bounded 0

/-- Also, no maximum of 0 stands on an `all` group at the top or on references that lead to it. -/
structure HeedsZero (globals : Globals) (p : Particle ElementDecl) : Prop
    extends HeedsZeroInside globals p where
  top : ∀ q r items, globals.RefersTo p q → globals.RefersTo q r → r.term = .all items →
    q.max ≠ .bounded 0

variable {globals : Globals} {p q : Particle ElementDecl} {name : QName} {leaf : Leaf}

theorem HeedsZeroInside.of_mem (h : globals.HeedsZeroInside p) (mem : q ∈ p.term.members) :
    globals.HeedsZeroInside q where
  min_eq n r nested := h.min_eq n r (.member mem nested)
  all_members n r items nested := h.all_members n r items (.member mem nested)

theorem HeedsZeroInside.of_group {ref : QName} (h : globals.HeedsZeroInside p)
    (term : p.term = .groupRef ref) (found : globals.group? ref = some q) :
    globals.HeedsZeroInside q where
  min_eq n r nested := h.min_eq (n + 1) r (.group term found nested)
  all_members n r items nested := h.all_members (n + 1) r items (.group term found nested)

theorem HeedsZeroInside.max_ne (h : globals.HeedsZeroInside p) (occurs : ¬ p.IsVoid) :
    p.max ≠ .bounded 0 :=
  fun zero => occurs ⟨h.min_eq 0 p (.refl p) zero, zero⟩

theorem permits_of_reaches {levels : Nat} {term : Term ElementDecl}
    (reaches : globals.Reaches leaf levels term) (admits : leaf.admits name = true)
    (hterm : p.term = term) (occurs : p.max ≠ .bounded 0) (h : globals.HeedsZeroInside p) :
    globals.Permits name levels p := by
  induction reaches generalizing p with
  | leaf found => exact .leaf occurs (hterm ▸ found) admits
  | @sequence levels q before after items split passed inner _ ih =>
    have mem : q ∈ p.term.members := by simp [hterm, Term.members, split]
    exact .member occurs mem (ih rfl ((h.of_mem mem).max_ne inner) (h.of_mem mem))
  | @choice levels q items mem inner _ ih =>
    have mem : q ∈ p.term.members := by simpa [hterm, Term.members] using mem
    exact .member occurs mem (ih rfl ((h.of_mem mem).max_ne inner) (h.of_mem mem))
  | @all levels q items mem _ ih =>
    -- compilation does not look at this maximum, so it must not be 0
    have inner := h.all_members 0 p items (.refl p) hterm q mem
    have mem : q ∈ p.term.members := by simpa [hterm, Term.members] using mem
    exact .member occurs mem (ih rfl inner (h.of_mem mem))
  | @group levels ref q found inner _ ih =>
    have heeds := h.of_group hterm found
    exact .group occurs hterm found (ih rfl (heeds.max_ne inner) heeds)

theorem permits_of_topLevelAll? {levels : Nat} {items : List (Particle ElementDecl)}
    {isOptional : Bool} (top : globals.topLevelAll? levels p = some (items, isOptional))
    (occurs : ∀ q r items, globals.RefersTo p q → globals.RefersTo q r → r.term = .all items →
      q.max ≠ .bounded 0)
    (mem : q ∈ items) (permits : ∀ levels, globals.Permits name levels q) :
    globals.Permits name levels p := by
  fun_induction topLevelAll? globals levels p generalizing isOptional with
  | case1 levels min max items' =>
    obtain ⟨rfl, -⟩ : items' = items ∧ (min == 0) = isOptional := by simpa using top
    exact .member (occurs _ _ _ (.refl _) (.refl _) rfl) mem (permits levels)
  | case2 levels min max ref ih =>
    simp only [Option.bind_eq_bind, Option.bind_eq_some_iff] at top
    obtain ⟨next, found, ⟨members, isOptional'⟩, top, heq⟩ := top
    obtain ⟨rfl, -⟩ : members = items ∧ _ := by simpa using heq
    obtain ⟨r, refers, hr⟩ := refersTo_of_topLevelAll? top
    refine .group (occurs _ r _ (.refl _) (.ref rfl found refers) hr) rfl found ?_
    exact ih next top fun q' r items refers' => occurs q' r items (.ref rfl found refers')
  | case3 => simp at top

/-- Where maxima of 0 are heeded, a name that can match is permitted. -/
theorem HeedsZero.permits (h : globals.HeedsZero p) (matchable : globals.Matchable name p) :
    globals.Permits name groupDepth p := by
  cases matchable with
  | @member items isOptional q leaf top mem found admits =>
    obtain ⟨r, refers, hr⟩ := refersTo_of_topLevelAll? top
    obtain ⟨n, nested⟩ := refers.nested
    have occurs := h.all_members n r items nested hr q mem
    exact permits_of_topLevelAll? top h.top mem fun _ => .leaf occurs found admits
  | @reached leaf top occurs reaches admits =>
    have heeds := h.toHeedsZeroInside
    exact permits_of_reaches reaches admits rfl (heeds.max_ne occurs) heeds

theorem exists_step_iff_of_topLevelAll? {items : List (Particle ElementDecl)} {isOptional : Bool}
    (top : globals.topLevelAll? groupDepth p = some (items, isOptional)) :
    (∃ names, (((ContentMatcher.ofParticle globals p).calls names).step name).1.isSome = true) ↔
      ∃ q ∈ items, ∃ leaf, globals.leaf? q.term = some leaf ∧ leaf.admits name = true := by
  unfold ContentMatcher.ofParticle CompiledModel.ofParticle
  rw [top]
  dsimp only
  rw [ContentMatcher.exists_step_all_iff]
  simp only [List.mem_filterMap, Option.map_eq_some_iff]
  constructor
  · rintro ⟨_, ⟨q, mem, leaf, found, rfl⟩, admits⟩
    exact ⟨q, mem, leaf, found, admits⟩
  · rintro ⟨q, mem, leaf, found, admits⟩
    exact ⟨_, ⟨q, mem, leaf, found, rfl⟩, admits⟩

theorem exists_step_iff_of_topLevelAll?_eq_none
    (top : globals.topLevelAll? groupDepth p = none)
    (no_wildcard : ∀ n ≤ 16, ∀ q wildcard, globals.Nested p n q → q.term ≠ .wildcard wildcard) :
    (∃ names, (((ContentMatcher.ofParticle globals p).calls names).step name).1.isSome = true) ↔
      ∃ leaf, (¬ p.IsVoid ∧ globals.Reaches leaf groupDepth p.term) ∧ leaf.admits name = true := by
  obtain ⟨wellFormed, hseeds, elements, -⟩ := reads_automaton (leavesIn_isElement no_wildcard)
  have hstart := hseeds _ List.mem_cons_self
  rw [ofParticle_of_topLevelAll?_eq_none top,
    ContentMatcher.exists_step_automaton_iff wellFormed hstart elements, exposed_automaton]
  exact Iff.rfl

/-- Of a particle without wildcards, the names that match in some state are those that the particle
makes matchable.  So where maxima of 0 are heeded, no state takes a name all of whose occurrences
have a maximum of 0, their own or that of a particle around them. -/
theorem exists_step_iff_matchable (globals : Globals) (p : Particle ElementDecl) (name : QName)
    (no_wildcard : ∀ n ≤ 16, ∀ q wildcard, globals.Nested p n q → q.term ≠ .wildcard wildcard) :
    let m := ContentMatcher.ofParticle globals p
    ((∃ names, ((m.calls names).step name).1.isSome = true) ↔ globals.Matchable name p) ∧
      (globals.HeedsZero p → ¬ globals.Permits name 16 p →
        ∀ names, ((m.calls names).step name).1 = none) := by
  intro m
  have characterised : (∃ names, ((m.calls names).step name).1.isSome = true) ↔
      globals.Matchable name p := by
    cases top : globals.topLevelAll? groupDepth p with
    | none =>
      rw [exists_step_iff_of_topLevelAll?_eq_none top no_wildcard]
      constructor
      · rintro ⟨leaf, ⟨occurs, reaches⟩, admits⟩
        exact .reached top occurs reaches admits
      · rintro (⟨top', -, -, -⟩ | ⟨-, occurs, reaches, admits⟩)
        · simp [top] at top'
        · exact ⟨_, ⟨occurs, reaches⟩, admits⟩
    | some group =>
      rw [exists_step_iff_of_topLevelAll? top]
      constructor
      · rintro ⟨q, mem, leaf, found, admits⟩
        exact .member top mem found admits
      · rintro (⟨top', mem, found, admits⟩ | ⟨top', -, -, -⟩)
        · rw [top, Option.some.injEq] at top'
          exact ⟨_, top' ▸ mem, _, found, admits⟩
        · simp [top] at top'
  refine ⟨characterised, fun heeds forbidden names => ?_⟩
  by_contra taken
  have matchable := characterised.1 ⟨names, Option.isSome_iff_ne_none.2 taken⟩
  exact forbidden (heeds.permits matchable)

/-- What is nested in a particle of elements. -/
theorem Nested.eq_or_mem {n : Nat} (nested : globals.Nested p n q)
    (no_group : ∀ ref, globals.group? ref = none)
    (elements : ∀ m ∈ p.term.members, ∃ ref, m.term = .elementRef ref) :
    q = p ∨ q ∈ p.term.members := by
  cases nested with
  | refl => exact .inl rfl
  | group ref found => simp [no_group] at found
  | @member _ m _ _ mem rest =>
    cases rest with
    | refl => exact .inr mem
    | member mem' =>
      obtain ⟨ref, hm⟩ := elements m mem
      simp [hm, Term.members] at mem'
    | group ref found => simp [no_group] at found

/-- An element with a maximum of 0 beside another: in an `all` group it still matches, in a sequence
it does not. -/
theorem exists_step_iff_matchable_zero :
    let globals : Globals := ⟨fun _ => none, fun _ => none⟩
    let items : List (Particle ElementDecl) :=
      [⟨0, .bounded 0, .elementRef ⟨"", "a"⟩⟩, ⟨1, .bounded 1, .elementRef ⟨"", "b"⟩⟩]
    let unordered : Particle ElementDecl := ⟨1, .bounded 1, .all items⟩
    let ordered : Particle ElementDecl := ⟨1, .bounded 1, .sequence items⟩
    let m := ContentMatcher.ofParticle globals unordered
    let m' := ContentMatcher.ofParticle globals ordered
    (¬ globals.Permits ⟨"", "a"⟩ 16 unordered ∧
        ∃ names, ((m.calls names).step ⟨"", "a"⟩).1.isSome = true) ∧
      globals.HeedsZero ordered ∧ ¬ globals.Permits ⟨"", "a"⟩ 16 ordered ∧
        ∀ names, ((m'.calls names).step ⟨"", "a"⟩).1 = none := by
  intro globals items unordered ordered m m'
  have elements : ∀ m ∈ items, ∃ ref, m.term = .elementRef ref := by simp [items]
  have nested_cases {p q : Particle ElementDecl} {n : Nat} (members : p.term.members = items)
      (nested : globals.Nested p n q) : q = p ∨ q ∈ items := by
    rw [← members] at elements ⊢
    exact nested.eq_or_mem (fun _ => rfl) elements
  have no_wildcard {p q : Particle ElementDecl} {n : Nat} (members : p.term.members = items)
      (nested : globals.Nested p n q) (wildcard : Wildcard) : q.term ≠ .wildcard wildcard := by
    intro hq
    rcases nested_cases members nested with rfl | mem
    · simp [hq, Term.members, items] at members
    · obtain ⟨ref, hm⟩ := elements q mem
      simp [hm] at hq
  have forbidden {p : Particle ElementDecl} (members : p.term.members = items)
      (composed : globals.leaf? p.term = none) : ¬ globals.Permits ⟨"", "a"⟩ 16 p := by
    intro permits
    cases permits with
    | leaf occurs found admits => simp [composed] at found
    | group occurs term found => simp [globals] at found
    | member occurs mem rest =>
      rw [members] at mem
      simp only [items, List.mem_cons, List.not_mem_nil, or_false] at mem
      rcases mem with rfl | rfl
      · cases rest <;> contradiction
      · cases rest with
        | leaf occurs found admits =>
          obtain rfl := Option.some.inj found
          exact absurd admits (by decide)
        | member occurs mem => simp [Term.members] at mem
        | group occurs term found => simp [globals] at found
  have heeds : globals.HeedsZero ordered := by
    refine ⟨⟨fun n q nested zero => ?_, fun n q group nested hq => ?_⟩, ?_⟩
    · rcases nested_cases rfl nested with rfl | mem
      · simp [ordered] at zero
      · simp only [items, List.mem_cons, List.not_mem_nil, or_false] at mem
        rcases mem with rfl | rfl
        · rfl
        · simp at zero
    · rcases nested_cases rfl nested with rfl | mem
      · simp [ordered] at hq
      · obtain ⟨ref, hm⟩ := elements q mem
        simp [hm] at hq
    · rintro q r group (_ | ⟨_, found, _⟩) - -
      · simp [ordered]
      · simp [globals] at found
  have first := exists_step_iff_matchable globals unordered ⟨"", "a"⟩
    fun _ _ q wildcard nested => no_wildcard rfl nested wildcard
  have second := exists_step_iff_matchable globals ordered ⟨"", "a"⟩
    fun _ _ q wildcard nested => no_wildcard rfl nested wildcard
  have matchable : globals.Matchable ⟨"", "a"⟩ unordered :=
    .member rfl List.mem_cons_self rfl (by decide)
  exact ⟨⟨forbidden rfl rfl, first.1.2 matchable⟩, heeds, forbidden rfl rfl,
    second.2 heeds (forbidden rfl rfl)⟩

end Globals

end XmlSchema

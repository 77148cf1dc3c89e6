import XmlSchema.Proofs.Content.Expectation

/-!
# Indices of automata

States and leaves of an automaton are known by their indices, and an index that is out of range
finds nothing.  The main statement (`ContentMatcher.wellIndexed_of_ofParticle`) says that this never
happens in the automaton of a particle.  It speaks of three loops in a form without fuel, in which
every index is checked: `Graph.Visits` and `Graph.Closes` for closures, `ContentMatcher.Passes` for a
child, and `ContentMatcher.available?` for the leaves in a message.  That they have a result means
that they come to their end and find all that they look up; that the result is the only one ties it
to the functions that are used.
-/

namespace XmlSchema

namespace Graph

variable {g : Graph}

/-! ## The loop of a closure -/

/-- The states that a closure visits, in this order, from the states on the stack.  A state with a
mark is passed over; another one is marked, and its successors go on the stack.  Every index is
checked. -/
inductive Visits (g : Graph) : List Nat → Array Bool → List Nat → Prop
  | done {marked : Array Bool} : g.Visits [] marked []
  | pass {s : Nat} {stack visited : List Nat} {marked : Array Bool} (inside : s < marked.size)
    (known : marked[s] = true) (rest : g.Visits stack marked visited) :
    g.Visits (s :: stack) marked visited
  | visit {s : Nat} {stack visited : List Nat} {marked : Array Bool} (inside : s < marked.size)
    (state : s < g.states.size) (new : marked[s] = false)
    (rest : g.Visits (g.states[s].silent ++ stack) (marked.set s true) visited) :
    g.Visits (s :: stack) marked (s :: visited)

/-- The loop has one outcome. -/
theorem Visits.unique {stack visited visited' : List Nat} {marked : Array Bool}
    (h : g.Visits stack marked visited) (h' : g.Visits stack marked visited') :
    visited = visited' := by
  induction h generalizing visited' with
  | done => cases h'; rfl
  | pass inside known _ ih =>
    cases h' with
    | pass _ _ rest => exact ih rest
    | visit _ _ new _ => rw [known] at new; cases new
  | visit inside state new _ ih =>
    cases h' with
    | pass _ known _ => rw [new] at known; cases known
    | visit _ _ _ rest => rw [ih rest]

theorem Visits.lt_size {stack visited : List Nat} {marked : Array Bool}
    (h : g.Visits stack marked visited) : ∀ t ∈ visited, t < g.states.size := by
  induction h with
  | done => simp
  | pass _ _ _ ih => exact ih
  | visit _ state _ _ ih => exact List.forall_mem_cons.2 ⟨state, ih⟩

theorem silentFrom_eq {s : Nat} (hs : s < g.states.size) : g.silentFrom s = g.states[s].silent := by
  simp [silentFrom, hs]

/-- With fuel for the stack and the open steps, marking follows the loop to its end: a state that
it marks is visited, once. -/
theorem exists_visits (hg : g.WellFormed) (fuel : Nat) (stack : List Nat) (marked : Array Bool)
    (hsize : marked.size = g.states.size) (hstack : ∀ s ∈ stack, s < g.states.size)
    (hfuel : stack.length + g.openSteps marked ≤ fuel) :
    ∃ visited, g.Visits stack marked visited ∧ visited.Nodup ∧
      (∀ t ∈ visited, ¬ Marked marked t) ∧
      ∀ t, Marked (g.markFrom fuel stack marked) t ↔ Marked marked t ∨ t ∈ visited := by
  fun_induction markFrom g fuel stack marked with
  | case1 stack marked =>
    obtain rfl : stack = [] := List.length_eq_zero_iff.1 (by omega)
    exact ⟨[], .done, by simp⟩
  | case2 => exact ⟨[], .done, by simp⟩
  | case3 fuel s stack marked hs ih =>
    obtain ⟨hlt, new⟩ := Array.getElem?_eq_some_iff.1 hs
    have hstate : s < g.states.size := hsize ▸ hlt
    obtain ⟨visited, visits, nodup, unmarked, marks⟩ := ih (by simpa using hsize)
      (hg.lt_size_of_mem_push hstack) (fuel_push hsize hs hfuel)
    simp only [marked_setIfInBounds hlt, not_or] at unmarked marks
    rw [silentFrom_eq hstate, Array.setIfInBounds_def, dif_pos hlt] at visits
    -- what is visited below has no mark once `s` has one, so `s` is not visited again
    have fresh : ¬ Marked marked s := by simp [Marked, hs]
    refine ⟨s :: visited, .visit hlt hstate new visits, ?_, ?_, fun t => ?_⟩
    · exact List.nodup_cons.2 ⟨fun again => (unmarked s again).1 rfl, nodup⟩
    · exact List.forall_mem_cons.2 ⟨fresh, fun t ht => (unmarked t ht).2⟩
    · rw [marks, List.mem_cons, or_assoc, or_left_comm]
  | case4 fuel s stack marked hs ih =>
    have hlt : s < marked.size := by rw [hsize]; exact hstack s (by simp)
    have known : marked[s] = true := by
      rw [Array.getElem?_eq_getElem hlt] at hs
      simpa using hs
    rw [List.length_cons] at hfuel
    obtain ⟨visited, visits, spec⟩ := ih hsize (fun t ht => hstack t (by simp [ht])) (by omega)
    exact ⟨visited, .pass hlt known visits, spec⟩

theorem pairwise_closure (g : Graph) (seeds : List Nat) : (g.closure seeds).Pairwise (· < ·) :=
  List.pairwise_lt_range.filter _

/-- The result of a closure by its loop: the states that are visited, in order. -/
def Closes (g : Graph) (seeds result : List Nat) : Prop :=
  ∃ visited, g.Visits seeds (Array.replicate g.states.size false) visited ∧
    visited.mergeSort = result

/-- From valid states the loop of a closure comes to its end, with the closure as its only
result. -/
theorem closes_iff (hg : g.WellFormed) {seeds result : List Nat}
    (hseeds : ∀ s ∈ seeds, s < g.states.size) :
    g.Closes seeds result ↔ result = g.closure seeds := by
  obtain ⟨visited, visits, nodup, -, marks⟩ := exists_visits hg (seeds.length + g.silentCount) seeds
    (Array.replicate g.states.size false) (by simp) hseeds (by rw [openSteps_replicate])
  have same : (g.closure seeds).Perm visited := by
    rw [List.perm_ext_iff_of_nodup ((pairwise_closure g seeds).imp Nat.ne_of_lt) nodup]
    intro t
    have unmarked := not_marked_replicate g.states.size t
    show t ∈ (List.range g.states.size).filter _ ↔ _
    rw [List.mem_filter, List.mem_range, decide_eq_true_iff]
    exact ⟨fun ht => ((marks t).1 ht.2).resolve_left unmarked,
      fun ht => ⟨visits.lt_size t ht, (marks t).2 (.inr ht)⟩⟩
  have sorted : visited.mergeSort = g.closure seeds :=
    ((List.mergeSort_perm visited _).trans same.symm).eq_of_pairwise'
      (List.pairwise_mergeSort' (· ≤ ·) visited) ((pairwise_closure g seeds).imp Nat.le_of_lt)
  constructor
  · rintro ⟨visited', visits', rfl⟩
    rw [visits'.unique visits, sorted]
  · rintro rfl
    exact ⟨visited, visits, sorted⟩

end Graph

/-! ## Compiled automata -/

/-- The start, the accepting state and all steps of an automaton have valid indices. -/
structure Automaton.WellIndexed (a : Automaton) : Prop extends a.toGraph.WellFormed where
  start_lt : a.start < a.states.size
  accept_lt : a.accept < a.states.size

theorem Globals.wellIndexed_automaton (globals : Globals) (p : Particle ElementDecl) :
    (globals.automaton p).WellIndexed := by
  have any_leaf : globals.LeavesIn (fun _ => True) 16 p := fun _ _ _ _ _ _ => trivial
  have hs : 0 < Graph.initial.states.size := by decide
  obtain ⟨E, grown, -, within, -⟩ := reads_particle 16 p any_leaf Graph.initial 0
    Graph.wellFormed_initial hs
  exact { grown.wellFormed with
    start_lt := lt_of_lt_of_le hs grown.size_le
    accept_lt := within.lt hs grown.size_le }

namespace ContentMatcher

variable {a : Automaton} {current : List Nat}

/-! ## Checked lookups -/

/-- The labelled steps from some states, if all of these are there. -/
def edges? (a : Automaton) (current : List Nat) : Option (List (Nat × Nat)) :=
  (current.mapM fun s => a.states[s]?).map fun states => states.flatMap State.edges

/-- The steps of an automaton for a name, if all states and leaves that are looked up are there. -/
def candidates? (a : Automaton) (current : List Nat) (name : QName) : Option (List (Leaf × Nat)) :=
  ((edges? a current).bind fun edges => edges.mapM fun e => a.leaves[e.1]?.map (·, e.2)).map
    fun labelled =>
      let admitting := labelled.filter (·.1.admits name)
      let declared := admitting.filter (·.1.isElement)
      if declared.isEmpty then admitting else declared

/-- The leaves that the next child may match, if all states and leaves that are looked up are
there. -/
def available? (a : Automaton) (current : List Nat) : Option (List Leaf) :=
  (edges? a current).bind fun edges => (edges.map Prod.fst).mergeSort.mapM fun i => a.leaves[i]?

/-- A child is passed over, with every index checked: the leaf that it matches and the state behind
it, which is the state before it if it does not match. -/
inductive Passes (a : Automaton) (current : List Nat) (name : QName) :
    Option Leaf × ContentMatcher → Prop
  | mismatch (found : candidates? a current name = some []) :
    Passes a current name (none, .automaton a current)
  | taken {c : Leaf × Nat} {rest : List (Leaf × Nat)} {next : List Nat}
    (found : candidates? a current name = some (c :: rest))
    (closes : a.Closes (c.2 :: rest.map Prod.snd) next) :
    Passes a current name (some c.1, .automaton a next)

theorem mapM_eq_some_filterMap {α β : Type} {f : α → Option β} {xs : List α}
    (h : ∀ x ∈ xs, (f x).isSome = true) : xs.mapM f = some (xs.filterMap f) := by
  induction xs with
  | nil => rfl
  | cons x xs ih =>
    rw [List.forall_mem_cons] at h
    obtain ⟨y, hy⟩ := Option.isSome_iff_exists.1 h.1
    rw [List.mapM_cons, hy, ih h.2, List.filterMap_cons_some hy]
    rfl

theorem flatMap_filterMap_states (a : Automaton) (current : List Nat) :
    (current.filterMap fun s => a.states[s]?).flatMap State.edges =
      current.flatMap a.edgesFrom := by
  induction current with
  | nil => rfl
  | cons s current ih =>
    rw [List.filterMap_cons, List.flatMap_cons, ← ih, Graph.edgesFrom]
    cases a.states[s]? <;> rfl

theorem edge_lt_of_mem (hg : a.WellFormed) {e : Nat × Nat}
    (he : e ∈ current.flatMap a.edgesFrom) : e.1 < a.leaves.size ∧ e.2 < a.states.size := by
  obtain ⟨s, -, edge⟩ := List.mem_flatMap.1 he
  exact hg.edge_lt s e.1 e.2 edge

section

variable (hg : a.WellFormed) (lt : ∀ s ∈ current, s < a.states.size)

include lt

theorem edges?_eq : edges? a current = some (current.flatMap a.edgesFrom) := by
  have states : ∀ s ∈ current, a.states[s]?.isSome = true := fun s hs => by simp [lt s hs]
  rw [edges?, mapM_eq_some_filterMap states, Option.map_some, flatMap_filterMap_states]

include hg

theorem candidates?_eq (name : QName) :
    candidates? a current name = some (candidates a current name) := by
  have leaves : ∀ e ∈ current.flatMap a.edgesFrom,
      (a.leaves[e.1]?.map fun leaf => (leaf, e.2)).isSome = true := fun e he => by
    simp [(edge_lt_of_mem hg he).1]
  have admitting : ((current.flatMap a.edgesFrom).filterMap fun e =>
      a.leaves[e.1]?.map fun leaf => (leaf, e.2)).filter (·.1.admits name) =
        admittingSteps a current name := by
    rw [List.filter_filterMap, admittingSteps]
    refine List.filterMap_congr fun e _ => ?_
    show _ = (admittingLeaf? a name e.1).map (·, e.2)
    rw [admittingLeaf?, Option.filter_map]
    rfl
  rw [candidates?, edges?_eq lt, Option.bind_some, mapM_eq_some_filterMap leaves, Option.map_some,
    candidates_eq_ite]
  dsimp only
  rw [admitting]

theorem passes_iff {name : QName} {outcome : Option Leaf × ContentMatcher} :
    Passes a current name outcome ↔ outcome = (automaton a current).step name := by
  have found := candidates?_eq hg lt name
  have targets : ∀ t ∈ (candidates a current name).map Prod.snd, t < a.states.size :=
    fun t ht => candidates_lt hg ht
  unfold ContentMatcher.step
  dsimp only
  generalize candidates a current name = chosen at found targets
  constructor
  · rintro (none | ⟨some, closes⟩)
    · obtain rfl := Option.some.inj (found.symm.trans none)
      rfl
    · obtain rfl := Option.some.inj (found.symm.trans some)
      rw [(Graph.closes_iff hg targets).1 closes]
      rfl
  · rintro rfl
    cases chosen with
    | nil => exact .mismatch found
    | cons c rest => exact .taken found ((Graph.closes_iff hg targets).2 rfl)

theorem available?_eq : available? a current = some (available (.automaton a current)) := by
  have leaves : ∀ i ∈ ((current.flatMap a.edgesFrom).map Prod.fst).mergeSort,
      a.leaves[i]?.isSome = true := by
    intro i hi
    obtain ⟨e, he, rfl⟩ := List.mem_map.1 (List.mem_mergeSort.1 hi)
    simp [(edge_lt_of_mem hg he).1]
  rw [available?, edges?_eq lt, Option.bind_some, mapM_eq_some_filterMap leaves]
  rfl

end

/-! ## States of a matcher -/

/-- Some states of an automaton in ascending order, with all that silent steps lead to. -/
structure Settled (a : Automaton) (current : List Nat) : Prop where
  nonempty : current ≠ []
  ascending : current.Pairwise (· < ·)
  lt : ∀ s ∈ current, s < a.states.size
  closed : SilentClosed a current

theorem settled_closure (hg : a.WellFormed) {seeds : List Nat} (nonempty : seeds ≠ [])
    (hseeds : ∀ s ∈ seeds, s < a.states.size) : Settled a (a.closure seeds) where
  nonempty := closure_ne_nil hg nonempty hseeds
  ascending := a.pairwise_closure seeds
  lt _ hs := Graph.lt_size_of_mem_closure hs
  closed := silentClosed_closure hg hseeds

/-- The states behind any children are settled, since those behind each child are a closure. -/
theorem exists_settled_calls (h : a.WellIndexed) (names : List QName) :
    ∃ current, (ofModel (.automaton a)).calls names = .automaton a current ∧ Settled a current := by
  refine calls_induction (motive := fun m => ∃ current, m = .automaton a current ∧
    Settled a current) ?_ ⟨_, rfl, settled_closure h.toWellFormed (by simp) ?_⟩ names
  · rintro _ name leaf next ⟨current, rfl, -⟩ hstep
    obtain ⟨seeds, some_seed, hseeds, rfl⟩ := exists_seeds_of_step h.toWellFormed hstep
    exact ⟨_, rfl, settled_closure h.toWellFormed some_seed hseeds⟩
  · simpa using h.start_lt

/-- The automaton of a particle has valid indices, whatever its groups refer to.  The closure of
valid states comes to its end and is the ascending list of the states that silent steps lead to.
Every state of the matcher is settled, and what is looked up there for a child or for a message is
in its range. -/
theorem wellIndexed_of_ofParticle (globals : Globals) (p : Particle ElementDecl) (a : Automaton)
    (compiled : CompiledModel.ofParticle globals p = .automaton a) :
    a.WellIndexed ∧
    (∀ seeds : List Nat, (∀ s ∈ seeds, s < a.states.size) →
      (∀ result, a.Closes seeds result ↔ result = a.closure seeds) ∧
      (a.closure seeds).Pairwise (· < ·) ∧
      ∀ t, t ∈ a.closure seeds ↔ ∃ s ∈ seeds, a.SilentReach s t) ∧
    ∀ names : List QName, ∃ current,
      (ofParticle globals p).calls names = .automaton a current ∧ Settled a current ∧
      (∀ name outcome, Passes a current name outcome ↔
        outcome = (automaton a current).step name) ∧
      available? a current = some (available (.automaton a current)) := by
  obtain rfl := Globals.eq_automaton_of_ofParticle compiled
  have indexed := globals.wellIndexed_automaton p
  have hg := indexed.toWellFormed
  refine ⟨indexed, fun seeds hseeds => ⟨fun result => Graph.closes_iff hg hseeds,
    Graph.pairwise_closure _ seeds, fun t => Graph.mem_closure hg hseeds⟩, fun names => ?_⟩
  obtain ⟨current, reached, settled⟩ := exists_settled_calls indexed names
  rw [← compiled] at reached
  exact ⟨current, reached, settled, fun name outcome => passes_iff hg settled.lt,
    available?_eq hg settled.lt⟩

/-- A group that refers to itself, any number of times. -/
theorem wellIndexed_of_ofParticle_cyclic :
    let group : Particle ElementDecl := ⟨1, .bounded 1, .choice
      [⟨1, .bounded 1, .elementRef ⟨"", "a"⟩⟩, ⟨0, .bounded 2, .groupRef ⟨"", "g"⟩⟩]⟩
    let globals : Globals := ⟨fun _ => none, fun _ => some group⟩
    let p : Particle ElementDecl := ⟨0, .unbounded, .groupRef ⟨"", "g"⟩⟩
    let a := globals.automaton p
    CompiledModel.ofParticle globals p = .automaton a ∧ a.WellIndexed ∧
      (∀ result, a.Closes [a.accept, a.start] result ↔ result = a.closure [a.accept, a.start]) ∧
      ∃ current, (ofParticle globals p).calls [⟨"", "a"⟩, ⟨"", "b"⟩] = .automaton a current ∧
        Settled a current := by
  intro group globals p a
  have compiled : CompiledModel.ofParticle globals p = .automaton a := rfl
  obtain ⟨indexed, closures, states⟩ := wellIndexed_of_ofParticle globals p a compiled
  obtain ⟨current, reached, settled, -⟩ := states [⟨"", "a"⟩, ⟨"", "b"⟩]
  have valid : ∀ s ∈ [a.accept, a.start], s < a.states.size := by
    simp [indexed.start_lt, indexed.accept_lt]
  exact ⟨compiled, indexed, (closures _ valid).1, current, reached, settled⟩

end ContentMatcher

end XmlSchema

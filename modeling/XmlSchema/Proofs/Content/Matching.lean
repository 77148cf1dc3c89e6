import XmlSchema.Content.Model
import XmlSchema.Proofs.Content.Closure

/-!
# Matching children

`ContentMatcher.matchAll` passes over all children of an element, and `ContentMatcher.Accepts` says
that each of them matches and that nothing is missing behind the last.  An automaton that accepts
names has a walk which reads them; when all its leaves are declared elements, so that none takes
precedence over another, the converse holds too.
-/

namespace XmlSchema

open Transitions

namespace ContentMatcher

/-- Passes over children: the leaves they matched and the state behind them. -/
def matchAll (m : ContentMatcher) : List QName → Option (List Leaf × ContentMatcher)
  | [] => some ([], m)
  | name :: names =>
    match m.step name with
    | (none, _) => none
    | (some leaf, m) => (m.matchAll names).map fun (leaves, m) => (leaf :: leaves, m)

/-- Every child matches, and the children may be all. -/
def Accepts (m : ContentMatcher) (names : List QName) : Prop :=
  ∃ leaves m', m.matchAll names = some (leaves, m') ∧ m'.isComplete = true

@[simp] theorem accepts_nil (m : ContentMatcher) : m.Accepts [] ↔ m.isComplete = true := by
  simp [Accepts, matchAll]

theorem accepts_cons (m : ContentMatcher) (name : QName) (names : List QName) :
    m.Accepts (name :: names) ↔ ∃ leaf m', m.step name = (some leaf, m') ∧ m'.Accepts names := by
  unfold Accepts
  rw [matchAll]
  generalize m.step name = taken
  obtain ⟨_ | leaf, m'⟩ := taken
  · simp
  · simp only [Option.map_eq_some_iff, Option.some.injEq, Prod.mk.injEq, Prod.exists]
    constructor
    · rintro ⟨leaves, last, ⟨rest, last', hrest, rfl, rfl⟩, complete⟩
      exact ⟨leaf, m', ⟨rfl, rfl⟩, rest, last', hrest, complete⟩
    · rintro ⟨_, _, ⟨rfl, rfl⟩, rest, last, hrest, complete⟩
      exact ⟨leaf :: rest, last, ⟨rest, last, hrest, rfl, rfl⟩, complete⟩

/-! ## Automata -/

variable {a : Automaton} {current : List Nat} {name : QName} {w : List QName}

/-- The steps of an automaton for a name, wildcards included. -/
def admittingSteps (a : Automaton) (current : List Nat) (name : QName) : List (Leaf × Nat) :=
  (current.flatMap a.edgesFrom).filterMap fun (index, target) =>
    (admittingLeaf? a name index).map (·, target)

theorem mem_admittingSteps {leaf : Leaf} {t : Nat} :
    (leaf, t) ∈ admittingSteps a current name ↔
      ∃ s ∈ current, (s, some leaf, t) ∈ a.transitions ∧ leaf.admits name = true := by
  simp only [admittingSteps, admittingLeaf?, List.mem_filterMap, List.mem_flatMap, Prod.exists,
    Option.map_eq_some_iff, Option.filter_eq_some_iff, Prod.mk.injEq, Graph.mem_transitions_some]
  constructor
  · rintro ⟨i, t, ⟨s, hs, step⟩, leaf, ⟨hleaf, admits⟩, rfl, rfl⟩
    exact ⟨s, hs, ⟨i, step, hleaf⟩, admits⟩
  · rintro ⟨s, hs, ⟨i, step, hleaf⟩, admits⟩
    exact ⟨i, t, ⟨s, hs, step⟩, leaf, ⟨hleaf, admits⟩, rfl, rfl⟩

theorem candidates_eq_ite (a : Automaton) (current : List Nat) (name : QName) :
    candidates a current name =
      if ((admittingSteps a current name).filter (·.1.isElement)).isEmpty then
        admittingSteps a current name
      else (admittingSteps a current name).filter (·.1.isElement) := rfl

theorem candidates_subset : candidates a current name ⊆ admittingSteps a current name := by
  rw [candidates_eq_ite]
  split
  · exact fun _ h => h
  · exact List.filter_subset_self _

/-- Without wildcards, nothing takes precedence. -/
theorem candidates_eq (elements : ∀ s leaf t, (s, some leaf, t) ∈ a.transitions →
    leaf.isElement = true) : candidates a current name = admittingSteps a current name := by
  have all_declared : (admittingSteps a current name).filter (·.1.isElement) =
      admittingSteps a current name := by
    refine List.filter_eq_self.2 fun (leaf, t) h => ?_
    obtain ⟨s, -, step, -⟩ := mem_admittingSteps.1 h
    exact elements s leaf t step
  rw [candidates_eq_ite, all_declared, ite_self]

theorem step_automaton_eq_some_iff {leaf : Leaf} {next : ContentMatcher} :
    (automaton a current).step name = (some leaf, next) ↔
      ∃ t, (candidates a current name).head? = some (leaf, t) ∧
        next = automaton a (a.closure ((candidates a current name).map Prod.snd)) := by
  unfold step
  dsimp only
  cases candidates a current name with
  | nil => simp
  | cons c rest =>
    obtain ⟨leaf', t⟩ := c
    simp [eq_comm]

theorem walk_of_silentReach {g : Graph} {s t : Nat} (reach : g.SilentReach s t) :
    Walk g.transitions s [] t := by
  induction reach with
  | refl => exact .refl s
  | tail _ step ih => exact ih.trans (.single step)

theorem candidates_lt (hg : a.WellFormed) {t : Nat}
    (ht : t ∈ (candidates a current name).map Prod.snd) : t < a.states.size := by
  obtain ⟨⟨leaf, t⟩, h, rfl⟩ := List.mem_map.1 ht
  obtain ⟨s, -, ⟨i, step, -⟩, -⟩ := mem_admittingSteps.1 (candidates_subset h)
  exact (hg.edge_lt s i t step).2

/-- What an automaton accepts, one of its walks reads. -/
theorem exists_walk_of_accepts (hg : a.WellFormed) (h : (automaton a current).Accepts w) :
    ∃ s ∈ current, Walk a.transitions s w a.accept := by
  induction w generalizing current with
  | nil =>
    rw [accepts_nil] at h
    exact ⟨a.accept, List.contains_iff_mem.1 h, .refl _⟩
  | cons name w ih =>
    rw [accepts_cons] at h
    obtain ⟨leaf, m', hstep, rest⟩ := h
    obtain ⟨-, -, rfl⟩ := step_automaton_eq_some_iff.1 hstep
    obtain ⟨r, hr, walk⟩ := ih rest
    obtain ⟨t, ht, reach⟩ := (Graph.mem_closure hg fun t ht => candidates_lt hg ht).1 hr
    obtain ⟨⟨leaf, t⟩, hmem, rfl⟩ := List.mem_map.1 ht
    obtain ⟨s, hs, step, admits⟩ := mem_admittingSteps.1 (candidates_subset hmem)
    exact ⟨s, hs, .read step admits ((walk_of_silentReach reach).trans walk)⟩

/-- Silent steps do not lead out of a set of states. -/
def SilentClosed (a : Automaton) (current : List Nat) : Prop :=
  ∀ s ∈ current, ∀ t ∈ a.silentFrom s, t ∈ current

theorem silentClosed_closure (hg : a.WellFormed) {seeds : List Nat}
    (hseeds : ∀ s ∈ seeds, s < a.states.size) : SilentClosed a (a.closure seeds) := by
  intro s hs t ht
  obtain ⟨r, hr, reach⟩ := (Graph.mem_closure hg hseeds).1 hs
  exact (Graph.mem_closure hg hseeds).2 ⟨r, hr, reach.tail ht⟩

theorem mem_closure_of_mem (hg : a.WellFormed) {seeds : List Nat}
    (hseeds : ∀ s ∈ seeds, s < a.states.size) {s : Nat} (hs : s ∈ seeds) :
    s ∈ a.closure seeds :=
  (Graph.mem_closure hg hseeds).2 ⟨s, hs, .refl⟩

theorem closure_ne_nil (hg : a.WellFormed) {seeds : List Nat} (nonempty : seeds ≠ [])
    (hseeds : ∀ s ∈ seeds, s < a.states.size) : a.closure seeds ≠ [] := by
  obtain ⟨s, rest, rfl⟩ := List.exists_cons_of_ne_nil nonempty
  exact List.ne_nil_of_mem (mem_closure_of_mem hg hseeds List.mem_cons_self)

/-- A child that matches leads to the closure of some states. -/
theorem exists_seeds_of_step (hg : a.WellFormed) {leaf : Leaf} {next : ContentMatcher}
    (h : (automaton a current).step name = (some leaf, next)) :
    ∃ seeds, seeds ≠ [] ∧ (∀ s ∈ seeds, s < a.states.size) ∧
      next = automaton a (a.closure seeds) := by
  obtain ⟨t, first, rfl⟩ := step_automaton_eq_some_iff.1 h
  have some_target : (candidates a current name).map Prod.snd ≠ [] :=
    List.ne_nil_of_mem (List.mem_map_of_mem (List.mem_of_mem_head? first))
  exact ⟨_, some_target, fun t ht => candidates_lt hg ht, rfl⟩

/-- Without wildcards, a child leads on to the targets of all steps that admit it. -/
theorem exists_step_of_transition (hg : a.WellFormed)
    (elements : ∀ s leaf t, (s, some leaf, t) ∈ a.transitions → leaf.isElement = true) {s t : Nat}
    {leaf : Leaf} (hs : s ∈ current) (step : (s, some leaf, t) ∈ a.transitions)
    (admits : leaf.admits name = true) :
    ∃ leaf' next, (automaton a current).step name = (some leaf', automaton a next) ∧
      SilentClosed a next ∧ t ∈ next := by
  have hmem : (leaf, t) ∈ candidates a current name := by
    rw [candidates_eq elements]
    exact mem_admittingSteps.2 ⟨s, hs, step, admits⟩
  have targets : ∀ t ∈ (candidates a current name).map Prod.snd, t < a.states.size :=
    fun t ht => candidates_lt hg ht
  obtain ⟨c, hc⟩ := Option.isSome_iff_exists.1 (List.isSome_head?.2 (List.ne_nil_of_mem hmem))
  refine ⟨c.1, _, step_automaton_eq_some_iff.2 ⟨c.2, hc, rfl⟩, silentClosed_closure hg targets, ?_⟩
  exact mem_closure_of_mem hg targets (List.mem_map.2 ⟨_, hmem, rfl⟩)

/-- What a walk reads, an automaton without wildcards accepts. -/
theorem accepts_of_walk (hg : a.WellFormed)
    (elements : ∀ s leaf t, (s, some leaf, t) ∈ a.transitions → leaf.isElement = true)
    (closed : SilentClosed a current) {s : Nat} (hs : s ∈ current)
    (walk : Walk a.transitions s w a.accept) : (automaton a current).Accepts w := by
  generalize hr : a.accept = r at walk
  induction walk generalizing current with
  | refl s =>
    rw [accepts_nil, isComplete, hr]
    exact List.contains_iff_mem.2 hs
  | silent step _ ih => exact ih closed (closed _ hs _ step) hr
  | @read s t r leaf name w step admits _ ih =>
    obtain ⟨leaf', next, taken, closed', ht⟩ :=
      exists_step_of_transition hg elements hs step admits
    rw [accepts_cons]
    exact ⟨leaf', _, taken, ih closed' ht hr⟩

end ContentMatcher

end XmlSchema

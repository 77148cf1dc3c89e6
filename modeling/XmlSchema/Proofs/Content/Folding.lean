import XmlSchema.Proofs.Content.Exactness

/-!
# Folding automata

Two particles can describe the same content and still become different automata, when one of them
has states that do nothing but lead on.  A `Folding` maps the states of such an automaton to those
of the other.  States that become one must hang together: silent steps lead from the first of them,
the root, to the others (`Folding.Onto`).  Then both automata accept the same children, also where
declared elements take precedence over wildcards (`Folding.Onto.accepts_iff`).

`Fragment.FoldsOnto f f'` says that `f` and `f'`, put behind graphs of which one folds onto the
other, again give such graphs.  Every way to put fragments together preserves this, and every
sequence of particles folds onto itself (`Globals.items_foldsOnto`).  So sequences can be flattened
(`Globals.accepts_sequence_nested`).
-/

namespace XmlSchema

namespace Graph

variable {g g' : Graph} {E : Transitions} {P : Leaf → Prop}

theorem size_lt_addState (g : Graph) : g.states.size < g.addState.2.states.size := by
  rw [addState_size]
  exact Nat.lt_succ_self _

theorem Grows.silentReach (h : g.Grows P E g') {s t : Nat} (reach : g.SilentReach s t) :
    g'.SilentReach s t := by
  refine Relation.ReflTransGen.mono (fun r q step => ?_) s t reach
  have kept : (r, none, q) ∈ g'.transitions := by
    rw [h.transitions_eq]
    exact .inl step
  exact kept

end Graph

/-- Maps between the states of two graphs of which the first has more states. -/
structure Folding where
  /-- What a state of the first graph becomes. -/
  image : Nat → Nat
  /-- The first of the states that become a state of the second graph. -/
  root : Nat → Nat

namespace Folding

/-- The steps of the first graph become steps of the second, apart from silent steps between states
that become one; and every step of the second graph comes about in this way. -/
structure Onto (F : Folding) (g g' : Graph) : Prop where
  wellFormed : g.WellFormed
  wellFormed' : g'.WellFormed
  image_lt : ∀ s < g.states.size, F.image s < g'.states.size
  root_lt : ∀ t < g'.states.size, F.root t < g.states.size
  image_root : ∀ t < g'.states.size, F.image (F.root t) = t
  reach_root : ∀ s < g.states.size, g.SilentReach (F.root (F.image s)) s
  image_step : ∀ s l t, (s, l, t) ∈ g.transitions →
    (l = none ∧ F.image s = F.image t) ∨ (F.image s, l, F.image t) ∈ g'.transitions
  root_step : ∀ s l t, (s, l, t) ∈ g'.transitions →
    ∃ r < g.states.size, F.image r = s ∧ (r, l, F.root t) ∈ g.transitions

variable {F F' F'' : Folding} {g g₁ g₂ g' g₁' g₂' : Graph} {P : Leaf → Prop}

/-! ## Acceptance -/

/-- The states that an automaton can be in become those that the other can be in. -/
structure Matches (F : Folding) (current current' : List Nat) : Prop where
  image_mem : ∀ s ∈ current, F.image s ∈ current'
  root_mem : ∀ t ∈ current', F.root t ∈ current

theorem Matches.eq_nil_iff {current current' : List Nat} (h : F.Matches current current') :
    current = [] ↔ current' = [] := by
  simp only [List.eq_nil_iff_forall_not_mem]
  exact ⟨fun none t ht => none _ (h.root_mem t ht), fun none s hs => none _ (h.image_mem s hs)⟩

namespace Onto

theorem image_reach (h : F.Onto g g') {s t : Nat} (reach : g.SilentReach s t) :
    g'.SilentReach (F.image s) (F.image t) := by
  induction reach with
  | refl => exact .refl
  | tail _ step ih =>
    rcases h.image_step _ none _ step with ⟨-, same⟩ | step
    · rwa [← same]
    · exact ih.tail step

theorem root_reach (h : F.Onto g g') {s t : Nat} (reach : g'.SilentReach s t) :
    g.SilentReach (F.root s) (F.root t) := by
  induction reach with
  | refl => exact .refl
  | tail _ step ih =>
    obtain ⟨r, hr, rfl, lifted⟩ := h.root_step _ none _ step
    exact (ih.trans (h.reach_root r hr)).tail lifted

theorem matches_closure (h : F.Onto g g') {seeds seeds' : List Nat}
    (hseeds : ∀ s ∈ seeds, s < g.states.size) (hseeds' : ∀ s ∈ seeds', s < g'.states.size)
    (hmatches : F.Matches seeds seeds') : F.Matches (g.closure seeds) (g'.closure seeds') where
  image_mem t ht := by
    obtain ⟨s, hs, reach⟩ := (Graph.mem_closure h.wellFormed hseeds).1 ht
    exact (Graph.mem_closure h.wellFormed' hseeds').2
      ⟨_, hmatches.image_mem s hs, h.image_reach reach⟩
  root_mem t ht := by
    obtain ⟨s, hs, reach⟩ := (Graph.mem_closure h.wellFormed' hseeds').1 ht
    exact (Graph.mem_closure h.wellFormed hseeds).2
      ⟨_, hmatches.root_mem s hs, h.root_reach reach⟩

end Onto

end Folding

namespace ContentMatcher

variable {a : Automaton} {current : List Nat} {name : QName} {w : List QName}

/-- A step is taken if its leaf admits the name, and if it is a declared element or no declared
element admits the name. -/
theorem mem_candidates {leaf : Leaf} {t : Nat} :
    (leaf, t) ∈ candidates a current name ↔ (leaf, t) ∈ admittingSteps a current name ∧
      (leaf.isElement = true ∨
        ∀ other r, (other, r) ∈ admittingSteps a current name → other.isElement = false) := by
  have unfolded : candidates a current name =
      if ((admittingSteps a current name).filter (·.1.isElement)).isEmpty then
        admittingSteps a current name
      else (admittingSteps a current name).filter (·.1.isElement) := rfl
  rw [unfolded]
  by_cases none_declared : ((admittingSteps a current name).filter (·.1.isElement)).isEmpty = true
  · rw [if_pos none_declared]
    have wildcards : ∀ other r, (other, r) ∈ admittingSteps a current name →
        other.isElement = false := by
      intro other r admitting
      have := List.filter_eq_nil_iff.1 (List.isEmpty_iff.1 none_declared) _ admitting
      simpa using this
    exact ⟨fun admitting => ⟨admitting, .inr wildcards⟩, fun h => h.1⟩
  · rw [if_neg none_declared, List.mem_filter]
    refine and_congr_right fun _ => ⟨.inl, fun h => h.resolve_right fun wildcards => ?_⟩
    refine none_declared (List.isEmpty_iff.2 (List.filter_eq_nil_iff.2 ?_))
    rintro ⟨other, r⟩ admitting
    simpa using wildcards other r admitting

theorem SilentClosed.mem_of_reach (closed : SilentClosed a current) {s r : Nat} (hs : s ∈ current)
    (reach : a.SilentReach s r) : r ∈ current := by
  induction reach with
  | refl => exact hs
  | tail _ step ih => exact closed _ ih _ step

theorem accepts_automaton_cons :
    (automaton a current).Accepts (name :: w) ↔ candidates a current name ≠ [] ∧
      (automaton a (a.closure ((candidates a current name).map Prod.snd))).Accepts w := by
  simp only [accepts_cons, step_automaton_eq_some_iff]
  cases candidates a current name with
  | nil => simp
  | cons c rest =>
    obtain ⟨leaf, t⟩ := c
    simp

end ContentMatcher

namespace Folding.Onto

variable {F : Folding} {a a' : Automaton} {current current' : List Nat} {name : QName}

open ContentMatcher

theorem image_admitting (h : F.Onto a.toGraph a'.toGraph) (hmatches : F.Matches current current')
    {leaf : Leaf} {t : Nat} (mem : (leaf, t) ∈ admittingSteps a current name) :
    (leaf, F.image t) ∈ admittingSteps a' current' name := by
  obtain ⟨s, hs, step, admits⟩ := mem_admittingSteps.1 mem
  rcases h.image_step s (some leaf) t step with ⟨silent, -⟩ | step
  · cases silent
  · exact mem_admittingSteps.2 ⟨_, hmatches.image_mem s hs, step, admits⟩

theorem root_admitting (h : F.Onto a.toGraph a'.toGraph) (closed : SilentClosed a current)
    (hmatches : F.Matches current current') {leaf : Leaf} {t : Nat}
    (mem : (leaf, t) ∈ admittingSteps a' current' name) :
    (leaf, F.root t) ∈ admittingSteps a current name := by
  obtain ⟨s, hs, step, admits⟩ := mem_admittingSteps.1 mem
  obtain ⟨r, hr, rfl, lifted⟩ := h.root_step s (some leaf) t step
  have reached := closed.mem_of_reach (hmatches.root_mem _ hs) (h.reach_root r hr)
  exact mem_admittingSteps.2 ⟨r, reached, lifted, admits⟩

/-- A name is read along steps that become each other. -/
theorem matches_candidates (h : F.Onto a.toGraph a'.toGraph) (closed : SilentClosed a current)
    (hmatches : F.Matches current current') (name : QName) :
    F.Matches ((candidates a current name).map Prod.snd)
      ((candidates a' current' name).map Prod.snd) where
  image_mem t ht := by
    obtain ⟨⟨leaf, t⟩, mem, rfl⟩ := List.mem_map.1 ht
    obtain ⟨admitting, declared⟩ := mem_candidates.1 mem
    refine List.mem_map.2 ⟨(leaf, F.image t), mem_candidates.2
      ⟨h.image_admitting hmatches admitting, declared.imp_right fun wildcards => ?_⟩, rfl⟩
    exact fun other r mem => wildcards other _ (h.root_admitting closed hmatches mem)
  root_mem t ht := by
    obtain ⟨⟨leaf, t⟩, mem, rfl⟩ := List.mem_map.1 ht
    obtain ⟨admitting, declared⟩ := mem_candidates.1 mem
    refine List.mem_map.2 ⟨(leaf, F.root t), mem_candidates.2
      ⟨h.root_admitting closed hmatches admitting, declared.imp_right fun wildcards => ?_⟩, rfl⟩
    exact fun other r mem => wildcards other _ (h.image_admitting hmatches mem)

theorem accepts_iff_of_matches (h : F.Onto a.toGraph a'.toGraph) (accept : a.accept < a.states.size)
    (image_accept : F.image a.accept = a'.accept) (closed : SilentClosed a current)
    (hmatches : F.Matches current current') (w : List QName) :
    (automaton a current).Accepts w ↔ (automaton a' current').Accepts w := by
  induction w generalizing current current' with
  | nil =>
    simp only [accepts_nil, isComplete, List.contains_iff_mem]
    constructor
    · intro mem
      rw [← image_accept]
      exact hmatches.image_mem _ mem
    · intro mem
      have root_mem := hmatches.root_mem _ mem
      rw [← image_accept] at root_mem
      exact closed.mem_of_reach root_mem (h.reach_root _ accept)
  | cons name w ih =>
    have targets := h.matches_candidates closed hmatches name
    have hseeds (t : Nat) (ht : t ∈ (candidates a current name).map Prod.snd) :
        t < a.states.size := candidates_lt h.wellFormed ht
    have hseeds' (t : Nat) (ht : t ∈ (candidates a' current' name).map Prod.snd) :
        t < a'.states.size := candidates_lt h.wellFormed' ht
    have stuck := targets.eq_nil_iff
    rw [List.map_eq_nil_iff, List.map_eq_nil_iff] at stuck
    rw [accepts_automaton_cons, accepts_automaton_cons, Ne, Ne, stuck,
      ih (silentClosed_closure h.wellFormed hseeds) (h.matches_closure hseeds hseeds' targets)]

/-- An automaton that folds onto another accepts the same children. -/
theorem accepts_iff (h : F.Onto a.toGraph a'.toGraph) (start : a.start < a.states.size)
    (accept : a.accept < a.states.size) (image_start : F.image a.start = a'.start)
    (root_start : F.root a'.start = a.start) (image_accept : F.image a.accept = a'.accept)
    (w : List QName) :
    (ofModel (.automaton a)).Accepts w ↔ (ofModel (.automaton a')).Accepts w := by
  have hseeds (s : Nat) (hs : s ∈ [a.start]) : s < a.states.size := by
    rwa [List.mem_singleton.1 hs]
  have hseeds' (s : Nat) (hs : s ∈ [a'.start]) : s < a'.states.size := by
    rw [List.mem_singleton.1 hs, ← image_start]
    exact h.image_lt _ start
  have hmatches : F.Matches [a.start] [a'.start] :=
    ⟨fun s hs => by simp [List.mem_singleton.1 hs, image_start],
      fun t ht => by simp [List.mem_singleton.1 ht, root_start]⟩
  exact h.accepts_iff_of_matches accept image_accept (silentClosed_closure h.wellFormed hseeds)
    (h.matches_closure hseeds hseeds' hmatches) w

end Folding.Onto

/-! ## Growing graphs -/

namespace Folding

variable {F F' F'' : Folding} {g g₁ g₂ g' g₁' g₂' : Graph} {P : Leaf → Prop}

/-- Two graphs have grown into graphs of which one still folds onto the other, and in the same way
as far as their old states go. -/
structure Grows (F : Folding) (g g' : Graph) (F₁ : Folding) (g₁ g₁' : Graph) : Prop where
  onto : F₁.Onto g₁ g₁'
  size_le : g.states.size ≤ g₁.states.size
  size_le' : g'.states.size ≤ g₁'.states.size
  image_eq : ∀ s < g.states.size, F₁.image s = F.image s
  root_eq : ∀ t < g'.states.size, F₁.root t = F.root t

theorem Grows.refl (h : F.Onto g g') : F.Grows g g' F g g' :=
  ⟨h, le_rfl, le_rfl, fun _ _ => rfl, fun _ _ => rfl⟩

theorem Grows.trans (h : F.Grows g g' F' g₁ g₁') (h' : F'.Grows g₁ g₁' F'' g₂ g₂') :
    F.Grows g g' F'' g₂ g₂' where
  onto := h'.onto
  size_le := h.size_le.trans h'.size_le
  size_le' := h.size_le'.trans h'.size_le'
  image_eq s hs := (h'.image_eq s (hs.trans_le h.size_le)).trans (h.image_eq s hs)
  root_eq t ht := (h'.root_eq t (ht.trans_le h.size_le')).trans (h.root_eq t ht)

/-- The state is the first of those that become one with it. -/
def IsRoot (F : Folding) (s : Nat) : Prop := F.root (F.image s) = s

theorem Grows.isRoot (h : F.Grows g g' F' g₁ g₁') (onto : F.Onto g g') {s : Nat}
    (hs : s < g.states.size) (isRoot : F.IsRoot s) : F'.IsRoot s := by
  unfold IsRoot
  rw [h.image_eq s hs, h.root_eq _ (onto.image_lt s hs)]
  exact isRoot

/-- Both graphs grow.  What is to be shown concerns the new states and transitions only. -/
theorem Onto.extend {E E' : Transitions} (h : F.Onto g g') (grown : g.Grows P E g₁)
    (grown' : g'.Grows P E' g₁') (image_eq : ∀ s < g.states.size, F'.image s = F.image s)
    (root_eq : ∀ t < g'.states.size, F'.root t = F.root t)
    (image_lt : ∀ s, g.states.size ≤ s → s < g₁.states.size →
      F'.image s < g₁'.states.size ∧ g₁.SilentReach (F'.root (F'.image s)) s)
    (root_lt : ∀ t, g'.states.size ≤ t → t < g₁'.states.size →
      F'.root t < g₁.states.size ∧ F'.image (F'.root t) = t)
    (image_step : ∀ s l t, (s, l, t) ∈ E →
      (l = none ∧ F'.image s = F'.image t) ∨ (F'.image s, l, F'.image t) ∈ E')
    (root_step : ∀ s l t, (s, l, t) ∈ E' →
      ∃ r < g₁.states.size, F'.image r = s ∧ (r, l, F'.root t) ∈ E) :
    F.Grows g g' F' g₁ g₁' where
  onto :=
    { wellFormed := grown.wellFormed
      wellFormed' := grown'.wellFormed
      image_lt := by
        intro s hs
        rcases Nat.lt_or_ge s g.states.size with old | new
        · rw [image_eq s old]
          exact (h.image_lt s old).trans_le grown'.size_le
        · exact (image_lt s new hs).1
      root_lt := by
        intro t ht
        rcases Nat.lt_or_ge t g'.states.size with old | new
        · rw [root_eq t old]
          exact (h.root_lt t old).trans_le grown.size_le
        · exact (root_lt t new ht).1
      image_root := by
        intro t ht
        rcases Nat.lt_or_ge t g'.states.size with old | new
        · rw [root_eq t old, image_eq _ (h.root_lt t old)]
          exact h.image_root t old
        · exact (root_lt t new ht).2
      reach_root := by
        intro s hs
        rcases Nat.lt_or_ge s g.states.size with old | new
        · rw [image_eq s old, root_eq _ (h.image_lt s old)]
          exact grown.silentReach (h.reach_root s old)
        · exact (image_lt s new hs).2
      image_step := by
        intro s l t step
        rw [grown.transitions_eq] at step
        rw [grown'.transitions_eq]
        rcases step with step | step
        · obtain ⟨hs, ht⟩ := h.wellFormed.lt_size step
          rw [image_eq s hs, image_eq t ht]
          exact (h.image_step s l t step).imp_right .inl
        · exact (image_step s l t step).imp_right .inr
      root_step := by
        intro s l t step
        rw [grown'.transitions_eq] at step
        rw [grown.transitions_eq]
        rcases step with step | step
        · obtain ⟨r, hr, image, lifted⟩ := h.root_step s l t step
          rw [root_eq t (h.wellFormed'.lt_size step).2]
          exact ⟨r, hr.trans_le grown.size_le, by rw [image_eq r hr, image], .inl lifted⟩
        · obtain ⟨r, hr, image, lifted⟩ := root_step s l t step
          exact ⟨r, hr, image, .inr lifted⟩ }
  size_le := grown.size_le
  size_le' := grown'.size_le
  image_eq := image_eq
  root_eq := root_eq

/-- Graphs that differ in their leaves only. -/
theorem Onto.of_size_eq {E E' : Transitions} (h : F.Onto g g') (grown : g.Grows P E g₁)
    (grown' : g'.Grows P E' g₁') (size : g₁.states.size = g.states.size)
    (size' : g₁'.states.size = g'.states.size)
    (image_step : ∀ s l t, (s, l, t) ∈ E → (F.image s, l, F.image t) ∈ E')
    (root_step : ∀ s l t, (s, l, t) ∈ E' →
      ∃ r < g.states.size, F.image r = s ∧ (r, l, F.root t) ∈ E) :
    F.Grows g g' F g₁ g₁' := by
  refine h.extend grown grown' (fun _ _ => rfl) (fun _ _ => rfl) (fun s hs hs' => ?_)
    (fun t ht ht' => ?_) (fun s l t step => .inr (image_step s l t step)) ?_
  · omega
  · omega
  · rw [size]
    exact root_step

theorem Onto.pushLeaf (h : F.Onto g g') (l : Leaf) :
    F.Grows g g' F { g with leaves := g.leaves.push l } { g' with leaves := g'.leaves.push l } :=
  h.of_size_eq (P := fun _ => True) (Graph.grows_pushLeaf h.wellFormed l)
    (Graph.grows_pushLeaf h.wellFormed' l) rfl rfl (fun _ _ _ step => step.elim)
    (fun _ _ _ step => step.elim)

/-- Both graphs get a step that leads to a root. -/
theorem Onto.addStep (h : F.Onto g g') {s t : Nat} {l : Option Leaf} (hs : s < g.states.size)
    (isRoot : F.IsRoot t) (grown : g.Grows P {(s, l, t)} g₁)
    (grown' : g'.Grows P {(F.image s, l, F.image t)} g₁')
    (size : g₁.states.size = g.states.size) (size' : g₁'.states.size = g'.states.size) :
    F.Grows g g' F g₁ g₁' := by
  refine h.of_size_eq grown grown' size size' ?_ ?_
  · rintro r k q ⟨⟩
    rfl
  · rintro r k q ⟨⟩
    rw [isRoot]
    exact ⟨s, hs, rfl, rfl⟩

theorem Onto.addSilent (h : F.Onto g g') {s t : Nat} (hs : s < g.states.size)
    (ht : t < g.states.size) (isRoot : F.IsRoot t) :
    F.Grows g g' F (g.addSilent s t) (g'.addSilent (F.image s) (F.image t)) :=
  h.addStep (P := fun _ => True) hs isRoot (Graph.grows_addSilent h.wellFormed hs ht)
    (Graph.grows_addSilent h.wellFormed' (h.image_lt s hs) (h.image_lt t ht))
    (Graph.addSilent_size s t) (Graph.addSilent_size _ _)

/-- The folding with one more state in each graph. -/
def push (F : Folding) (s t : Nat) : Folding where
  image := Function.update F.image s t
  root := Function.update F.root t s

@[simp] theorem push_image (F : Folding) (s t : Nat) : (F.push s t).image s = t :=
  Function.update_self ..

theorem push_isRoot (F : Folding) (s t : Nat) : (F.push s t).IsRoot s := by
  rw [IsRoot, push_image]
  exact Function.update_self ..

theorem Onto.addState (h : F.Onto g g') :
    F.Grows g g' (F.push g.states.size g'.states.size) g.addState.2 g'.addState.2 := by
  refine h.extend (P := fun _ => True) (Graph.grows_addState h.wellFormed)
    (Graph.grows_addState h.wellFormed') (fun s hs => Function.update_of_ne hs.ne _ _)
    (fun t ht => Function.update_of_ne ht.ne _ _) (fun s hs hs' => ?_) (fun t ht ht' => ?_)
    (fun _ _ _ step => step.elim) (fun _ _ _ step => step.elim)
  · obtain rfl : s = g.states.size := by
      rw [Graph.addState_size] at hs'
      omega
    simp only [push, Function.update_self, Graph.addState_size]
    exact ⟨by omega, .refl⟩
  · obtain rfl : t = g'.states.size := by
      rw [Graph.addState_size] at ht'
      omega
    simp only [push, Function.update_self, Graph.addState_size]
    exact ⟨by omega, trivial⟩

/-- The graphs grow from a new state on, and the part that is added ends there. -/
theorem Onto.grows_of_added (h : F.Onto g g')
    (grows : (F.push g.states.size g'.states.size).Grows g.addState.2 g'.addState.2 F' g₁ g₁') :
    F.Grows g g' F' g₁ g₁' ∧ g.states.size < g₁.states.size ∧
      F'.image g.states.size = g'.states.size :=
  ⟨h.addState.trans grows, g.size_lt_addState.trans_le grows.size_le,
    (grows.image_eq _ g.size_lt_addState).trans (F.push_image _ _)⟩

/-- The folding with one more state in the first graph, which becomes one with an old state. -/
def merge (F : Folding) (s t : Nat) : Folding where
  image := Function.update F.image s (F.image t)
  root := F.root

/-- The first graph gets a state that a silent step leads to from an old one. -/
theorem Onto.addIdle (h : F.Onto g g') {s : Nat} (hs : s < g.states.size) :
    F.Grows g g' (F.merge g.states.size s) (g.addState.2.addSilent s g.states.size) g' := by
  have added := Graph.grows_addState (P := fun _ => True) h.wellFormed
  have linked := Graph.grows_addSilent (P := fun _ => True) (s := s) (t := g.states.size)
    added.wellFormed (by rw [Graph.addState_size]; omega) (by rw [Graph.addState_size]; omega)
  have grown := added.trans linked
  rw [Set.empty_union] at grown
  have old {r : Nat} (hr : r < g.states.size) :
      (F.merge g.states.size s).image r = F.image r := Function.update_of_ne hr.ne _ _
  have new : (F.merge g.states.size s).image g.states.size = F.image s := Function.update_self ..
  refine h.extend grown (.refl h.wellFormed') (fun _ => old) (fun _ _ => rfl) (fun r hr hr' => ?_)
    (fun t ht ht' => absurd ht' (by omega)) ?_ (fun _ _ _ step => step.elim)
  · obtain rfl : r = g.states.size := by
      rw [Graph.addSilent_size, Graph.addState_size] at hr'
      omega
    rw [new]
    refine ⟨h.image_lt s hs, (grown.silentReach (h.reach_root s hs)).tail ?_⟩
    have linked :
        (s, none, g.states.size) ∈ (g.addState.2.addSilent s g.states.size).transitions := by
      rw [grown.transitions_eq]
      exact .inr rfl
    exact linked
  · rintro r k q ⟨⟩
    exact .inl ⟨rfl, (old hs).trans new.symm⟩

end Folding

/-! ## Fragments -/

/-- The two fragments, put behind graphs of which one folds onto the other, keep it so. -/
def Fragment.FoldsOnto (f f' : Fragment) : Prop :=
  ∀ (F : Folding) (g g' : Graph) (start : Nat), F.Onto g g' → start < g.states.size →
    ∃ F' : Folding, F.Grows g g' F' (f start g).2 (f' (F.image start) g').2 ∧
      (f start g).1 < (f start g).2.states.size ∧
      F'.image (f start g).1 = (f' (F.image start) g').1

namespace Fragment

variable {f f' k k' : Fragment} {F : Folding} {g g' : Graph}

theorem foldsOnto_skip : FoldsOnto skip skip := by
  intro F g g' start onto hs
  exact ⟨F, .refl onto, hs, rfl⟩

/-- A state that does nothing but lead on can be left out. -/
theorem upTo_zero_foldsOnto_skip : FoldsOnto (upTo 0 f) skip := by
  intro F g g' start onto hs
  exact ⟨_, onto.addIdle hs, by simp [upTo, upToFrom], Function.update_self ..⟩

theorem FoldsOnto.andThen (hf : FoldsOnto f f') (hk : FoldsOnto k k') :
    FoldsOnto (andThen f k) (andThen f' k') := by
  intro F g g' start onto hs
  obtain ⟨F₁, grows, hstop, stop⟩ := hf F g g' start onto hs
  obtain ⟨F₂, grows', hstop', stop'⟩ := hk F₁ _ _ _ grows.onto hstop
  rw [stop] at grows' stop'
  exact ⟨F₂, grows.trans grows', hstop', stop'⟩

theorem foldsOnto_leaf (l : Leaf) : FoldsOnto (leaf l) (leaf l) := by
  intro F g g' start onto hs
  have pushed := onto.pushLeaf l
  have grows : F.Grows g g' (F.push g.states.size g'.states.size) _ _ :=
    pushed.trans pushed.onto.addState
  have hs' := hs.trans_le grows.size_le
  have new_lt : g.states.size <
      (Graph.addState { g with leaves := g.leaves.push l }).2.states.size := by
    simp
  have linked := grows.onto.addStep (P := fun _ => True) (l := some l) hs'
    (Folding.push_isRoot F g.states.size g'.states.size)
    (Graph.grows_addEdge (i := g.leaves.size) grows.onto.wellFormed hs' new_lt (by simp) trivial)
    (Graph.grows_addEdge (i := g'.leaves.size) grows.onto.wellFormed'
      (grows.onto.image_lt _ hs') (grows.onto.image_lt _ new_lt) (by simp) trivial)
    (Graph.addEdge_size _ _ _) (Graph.addEdge_size _ _ _)
  have whole := grows.trans linked
  rw [grows.image_eq start hs, Folding.push_image] at whole
  exact ⟨_, whole, by simp [leaf], Folding.push_image F g.states.size g'.states.size⟩

theorem foldsOnto_sequence {fs fs' : List Fragment} (h : List.Forall₂ FoldsOnto fs fs') :
    FoldsOnto (sequence fs) (sequence fs') := by
  induction h with
  | nil => exact foldsOnto_skip
  | cons hf _ ih => exact hf.andThen ih

theorem FoldsOnto.times (hf : FoldsOnto f f') (n : Nat) : FoldsOnto (times n f) (times n f') := by
  induction n with
  | zero => exact foldsOnto_skip
  | succ n ih => exact hf.andThen ih

/-! ### Parts that lead to a given state -/

theorem FoldsOnto.upToFrom (hf : FoldsOnto f f') {start exit : Nat} (n : Nat)
    (onto : F.Onto g g') (hs : start < g.states.size) (he : exit < g.states.size)
    (isRoot : F.IsRoot exit) :
    ∃ F' : Folding, F.Grows g g' F' (upToFrom f exit n start g)
      (upToFrom f' (F.image exit) n (F.image start) g') := by
  have left := onto.addSilent hs he isRoot
  induction n generalizing F g g' start with
  | zero => exact ⟨F, left⟩
  | succ n ih =>
    obtain ⟨F₁, grows, hstop, stop⟩ := hf F _ _ start left.onto (hs.trans_le left.size_le)
    have whole := left.trans grows
    have he₁ := he.trans_le whole.size_le
    have isRoot₁ := whole.isRoot onto he isRoot
    obtain ⟨F₂, rest⟩ := ih grows.onto hstop he₁ isRoot₁ (grows.onto.addSilent hstop he₁ isRoot₁)
    rw [stop, whole.image_eq exit he] at rest
    exact ⟨F₂, whole.trans rest⟩

theorem foldsOnto_alternatives {fs fs' : List Fragment} (h : List.Forall₂ FoldsOnto fs fs')
    {start stop : Nat} (onto : F.Onto g g') (hs : start < g.states.size)
    (ht : stop < g.states.size) (isRoot : F.IsRoot stop) :
    ∃ F' : Folding, F.Grows g g' F' (alternatives start stop fs g)
      (alternatives (F.image start) (F.image stop) fs' g') := by
  induction h generalizing F g g' with
  | nil => exact ⟨F, .refl onto⟩
  | cons hf _ ih =>
    obtain ⟨F₁, grows, hlast, last⟩ := hf F g g' start onto hs
    have ht₁ := ht.trans_le grows.size_le
    have left := grows.trans (grows.onto.addSilent hlast ht₁ (grows.isRoot onto ht isRoot))
    obtain ⟨F₂, rest⟩ := ih left.onto (hs.trans_le left.size_le) (ht.trans_le left.size_le)
      (left.isRoot onto ht isRoot)
    rw [last, left.image_eq start hs, left.image_eq stop ht] at rest
    rw [last, left.image_eq stop ht] at left
    exact ⟨F₂, left.trans rest⟩

/-! ### Repetition and choice -/

theorem FoldsOnto.upTo (hf : FoldsOnto f f') (n : Nat) : FoldsOnto (upTo n f) (upTo n f') := by
  intro F g g' start onto hs
  have added := onto.addState
  obtain ⟨F', grows⟩ := hf.upToFrom n added.onto (hs.trans_le added.size_le)
    g.size_lt_addState (F.push_isRoot _ _)
  rw [F.push_image, added.image_eq start hs] at grows
  exact ⟨F', onto.grows_of_added grows⟩

theorem foldsOnto_choice {fs fs' : List Fragment} (h : List.Forall₂ FoldsOnto fs fs') :
    FoldsOnto (choice fs) (choice fs') := by
  intro F g g' start onto hs
  have added := onto.addState
  obtain ⟨F', grows⟩ := foldsOnto_alternatives h added.onto (hs.trans_le added.size_le)
    g.size_lt_addState (F.push_isRoot _ _)
  rw [F.push_image, added.image_eq start hs] at grows
  exact ⟨F', onto.grows_of_added grows⟩

theorem foldsOnto_anyOrder {fs fs' : List Fragment} (h : List.Forall₂ FoldsOnto fs fs') :
    FoldsOnto (anyOrder fs) (anyOrder fs') := by
  intro F g g' start onto hs
  have added := onto.addState
  have isRoot := F.push_isRoot g.states.size g'.states.size
  have entered := added.onto.addSilent (hs.trans_le added.size_le) g.size_lt_addState isRoot
  have head_lt := g.size_lt_addState.trans_le entered.size_le
  obtain ⟨F', grows⟩ := foldsOnto_alternatives h entered.onto head_lt head_lt isRoot
  have whole := entered.trans grows
  rw [F.push_image, added.image_eq start hs] at whole
  exact ⟨F', onto.grows_of_added whole⟩

theorem FoldsOnto.star (hf : FoldsOnto f f') : FoldsOnto (star f) (star f') :=
  -- to repeat a part is to take it from a choice of one, any number of times
  foldsOnto_anyOrder (.cons hf .nil)

theorem FoldsOnto.occurs (hf : FoldsOnto f f') (min : Nat) (max : MaxOccurs) :
    FoldsOnto (occurs min max f) (occurs min max f') := by
  unfold Fragment.occurs
  dsimp only
  cases max.expanded? (Nat.min min expandedMin) with
  | none => exact (hf.times _).andThen hf.star
  | some n =>
    cases n with
    | zero => exact foldsOnto_skip
    | succ n => exact (hf.times _).andThen (hf.upTo _)

/-- Fragments of which one folds onto the other give automata that accept the same children. -/
theorem FoldsOnto.accepts_iff (hf : FoldsOnto f f') (w : List QName) :
    (ContentMatcher.ofModel (.automaton f.toAutomaton)).Accepts w ↔
      (ContentMatcher.ofModel (.automaton f'.toAutomaton)).Accepts w := by
  have onto : (⟨id, id⟩ : Folding).Onto Graph.initial Graph.initial :=
    { wellFormed := Graph.wellFormed_initial
      wellFormed' := Graph.wellFormed_initial
      image_lt := fun _ hs => hs
      root_lt := fun _ ht => ht
      image_root := fun _ _ => rfl
      reach_root := fun _ _ => .refl
      image_step := fun _ _ _ step => .inr step
      root_step := fun s _ _ step => ⟨s, (Graph.wellFormed_initial.lt_size step).1, rfl, step⟩ }
  obtain ⟨F, grows, hstop, stop⟩ := hf _ _ _ 0 onto (by decide)
  have hstart : (0 : Nat) < Graph.initial.states.size := by decide
  have folds : F.Onto f.toAutomaton.toGraph f'.toAutomaton.toGraph := grows.onto
  exact folds.accepts_iff (hstart.trans_le grows.size_le) hstop (grows.image_eq 0 hstart)
    (grows.root_eq 0 hstart) stop w

end Fragment

/-! ## Particles -/

namespace Globals

open Fragment

variable {globals : Globals}

section Step

variable {group : QName → Fragment}

mutual

theorem particle_foldsOnto_step (groups : ∀ name, FoldsOnto (group name) (group name)) :
    ∀ p : Particle ElementDecl,
    FoldsOnto (p.fragment globals group) (p.fragment globals group)
  | ⟨min, max, term⟩ => by
    rw [Particle.fragment]
    exact (term_foldsOnto_step groups term).occurs min max

theorem term_foldsOnto_step (groups : ∀ name, FoldsOnto (group name) (group name)) :
    ∀ term : Term ElementDecl,
    FoldsOnto (term.fragment globals group) (term.fragment globals group)
  | .element declaration => by
    rw [Term.fragment]
    exact foldsOnto_leaf (.element declaration)
  | .elementRef name => by
    rw [Term.fragment]
    exact foldsOnto_leaf (.element (globals.element name))
  | .wildcard wildcard => by
    rw [Term.fragment]
    exact foldsOnto_leaf (.wildcard wildcard)
  | .sequence items => by
    rw [Term.fragment]
    exact foldsOnto_sequence (items_foldsOnto_step groups items)
  | .choice items => by
    rw [Term.fragment]
    exact foldsOnto_choice (items_foldsOnto_step groups items)
  | .all items => by
    rw [Term.fragment]
    exact foldsOnto_anyOrder (terms_foldsOnto_step groups items)
  | .groupRef name => by
    rw [Term.fragment]
    exact groups name

theorem items_foldsOnto_step (groups : ∀ name, FoldsOnto (group name) (group name)) :
    ∀ items : List (Particle ElementDecl),
    List.Forall₂ FoldsOnto (Particle.fragments globals group items)
      (Particle.fragments globals group items)
  | [] => .nil
  | p :: ps => .cons (particle_foldsOnto_step groups p) (items_foldsOnto_step groups ps)

theorem terms_foldsOnto_step (groups : ∀ name, FoldsOnto (group name) (group name)) :
    ∀ items : List (Particle ElementDecl),
    List.Forall₂ FoldsOnto (Particle.termFragments globals group items)
      (Particle.termFragments globals group items)
  | [] => .nil
  | ⟨_, _, term⟩ :: ps => .cons (term_foldsOnto_step groups term) (terms_foldsOnto_step groups ps)

end

end Step

theorem group_foldsOnto (globals : Globals) (levels : Nat) (name : QName) :
    FoldsOnto (globals.groupFragment levels name) (globals.groupFragment levels name) := by
  induction levels generalizing name with
  | zero => exact foldsOnto_skip
  | succ levels ih =>
    rw [groupFragment]
    cases globals.group? name with
    | none => exact foldsOnto_skip
    | some p => exact particle_foldsOnto_step ih p

/-- A sequence of particles, put behind graphs of which one folds onto the other, keeps it so. -/
theorem items_foldsOnto (globals : Globals) (items : List (Particle ElementDecl)) :
    FoldsOnto (sequence (Particle.fragments globals (globals.groupFragment groupDepth) items))
      (sequence (Particle.fragments globals (globals.groupFragment groupDepth) items)) :=
  foldsOnto_sequence (items_foldsOnto_step (globals.group_foldsOnto groupDepth) items)

/-! ### Sequences -/

variable {p : Particle ElementDecl}

theorem ofParticle_sequence (items : List (Particle ElementDecl)) :
    ContentMatcher.ofParticle globals (.once (.sequence items)) =
      .ofModel (.automaton (globals.automaton (.once (.sequence items)))) :=
  ofParticle_of_topLevelAll?_eq_none rfl

/-- A particle that occurs once ends in a state that does nothing but lead on. -/
theorem fragment_once_sequence (group : QName → Fragment) (items : List (Particle ElementDecl)) :
    (Particle.once (.sequence items)).fragment globals group =
      andThen (sequence (Particle.fragments globals group items))
        (upTo 0 (sequence (Particle.fragments globals group items))) := by
  rw [Particle.once, Particle.fragment, Term.fragment]
  rfl

theorem fragments_append_singleton (group : QName → Fragment)
    (items : List (Particle ElementDecl)) (last : Particle ElementDecl) :
    sequence (Particle.fragments globals group (items ++ [last])) =
      andThen (sequence (Particle.fragments globals group items))
        (last.fragment globals group) := by
  induction items with
  | nil =>
    rw [List.nil_append, Particle.fragments, Particle.fragments]
    rfl
  | cons item items ih =>
    rw [List.cons_append, Particle.fragments, Particle.fragments, Fragment.sequence,
      Fragment.sequence, ih]
    rfl

/-- A sequence of one particle is as good as the particle. -/
theorem accepts_sequence_singleton (h : globals.topLevelAll? groupDepth p = none)
    (w : List QName) :
    (ContentMatcher.ofParticle globals p).Accepts w ↔
      (ContentMatcher.ofParticle globals (.once (.sequence [p]))).Accepts w := by
  have folds : FoldsOnto
      ((Particle.once (.sequence [p])).fragment globals (globals.groupFragment groupDepth))
      (p.fragment globals (globals.groupFragment groupDepth)) := by
    rw [fragment_once_sequence]
    exact (globals.items_foldsOnto [p]).andThen upTo_zero_foldsOnto_skip
  rw [ofParticle_of_topLevelAll?_eq_none h, ofParticle_sequence]
  exact (folds.accepts_iff w).symm

/-- A sequence inside a sequence is as good as one sequence. -/
theorem accepts_sequence_nested (items : List (Particle ElementDecl)) (last : Particle ElementDecl)
    (w : List QName) :
    (ContentMatcher.ofParticle globals
      (.once (.sequence [.once (.sequence items), last]))).Accepts w ↔
      (ContentMatcher.ofParticle globals (.once (.sequence (items ++ [last])))).Accepts w := by
  have folds : FoldsOnto
      ((Particle.once (.sequence [.once (.sequence items), last])).fragment globals
        (globals.groupFragment groupDepth))
      ((Particle.once (.sequence (items ++ [last]))).fragment globals
        (globals.groupFragment groupDepth)) := by
    have inner : FoldsOnto
        (sequence (Particle.fragments globals (globals.groupFragment groupDepth)
          [.once (.sequence items), last]))
        (andThen (sequence (Particle.fragments globals (globals.groupFragment groupDepth) items))
          (last.fragment globals (globals.groupFragment groupDepth))) := by
      rw [Particle.fragments, fragment_once_sequence]
      exact ((globals.items_foldsOnto items).andThen upTo_zero_foldsOnto_skip).andThen
        (globals.items_foldsOnto [last])
    rw [fragment_once_sequence, fragment_once_sequence, fragments_append_singleton]
    exact inner.andThen (inner.upTo 0)
  rw [ofParticle_sequence, ofParticle_sequence]
  exact folds.accepts_iff w

end Globals

end XmlSchema

import XmlSchema.Proofs.Content.Language

/-!
# Live automata

From every state of a part that a fragment adds, steps lead to the end of the part
(`Fragment.Live`).  Only a choice between nothing fails this, since its start has no way on.  So if
no choice that a particle contains is empty, every state of its automaton leads to the accepting one
(`Globals.live_automaton`).

The names that the steps read do not matter here: a wildcard may admit no namespace at all.
-/

namespace XmlSchema

open Fragment

/-! ## Ways through a graph -/

namespace Graph

/-- Steps, silent or not, lead from one state to the other. -/
def Leads (g : Graph) : Nat → Nat → Prop :=
  Relation.ReflTransGen fun s t => ∃ label, (s, label, t) ∈ g.transitions

/-- The graph `g'` has the states and steps of `g`, and maybe more. -/
structure Enlarges (g g' : Graph) : Prop where
  wellFormed : g'.WellFormed
  size_le : g.states.size ≤ g'.states.size
  subset : g.transitions ⊆ g'.transitions

variable {P : Leaf → Prop} {E : Transitions} {g g' g'' : Graph} {s t : Nat}

theorem Grows.enlarges (h : g.Grows P E g') : g.Enlarges g' where
  wellFormed := h.wellFormed
  size_le := h.size_le
  subset := by simp [h.transitions_eq]

theorem Enlarges.refl (hg : g.WellFormed) : g.Enlarges g := ⟨hg, le_rfl, subset_rfl⟩

theorem Enlarges.trans (h : g.Enlarges g') (h' : g'.Enlarges g'') : g.Enlarges g'' :=
  ⟨h'.wellFormed, h.size_le.trans h'.size_le, h.subset.trans h'.subset⟩

theorem enlarges_addState (hg : g.WellFormed) : g.Enlarges g.addState.2 :=
  (grows_addState (P := fun _ => True) hg).enlarges

theorem enlarges_addSilent (hg : g.WellFormed) (hs : s < g.states.size) (ht : t < g.states.size) :
    g.Enlarges (g.addSilent s t) :=
  (grows_addSilent (P := fun _ => True) hg hs ht).enlarges

theorem leads_addSilent (hs : s < g.states.size) : (g.addSilent s t).Leads s t := by
  have step : (s, none, t) ∈ (g.addSilent s t).transitions := by
    rw [mem_transitions_none, addSilent_silentFrom hs]
    simp
  exact .single ⟨none, step⟩

theorem Leads.mono (h : g.Enlarges g') (way : g.Leads s t) : g'.Leads s t :=
  Relation.ReflTransGen.mono (fun _ _ ⟨label, step⟩ => ⟨label, h.subset step⟩) _ _ way

/-- The graph `g'` is `g` with further states that all lead to `stop`. -/
structure Drains (g : Graph) (stop : Nat) (g' : Graph) : Prop where
  enlarges : g.Enlarges g'
  leads : ∀ s, g.states.size ≤ s → s < g'.states.size → g'.Leads s stop

end Graph

/-! ## Live fragments -/

/-- What a fragment adds at a state of a graph: all states of the part lead to its end. -/
structure Fragment.LiveAt (f : Fragment) (g : Graph) (start : Nat) : Prop where
  enlarges : g.Enlarges (f start g).2
  stop : Within start g.states.size (f start g).2.states.size (f start g).1
  leads : ∀ s, Within start g.states.size (f start g).2.states.size s →
    (f start g).2.Leads s (f start g).1

/-- In the part that the fragment adds to a graph, all states lead to the end. -/
def Fragment.Live (f : Fragment) : Prop :=
  ∀ (g : Graph) (start : Nat), g.WellFormed → start < g.states.size → f.LiveAt g start

namespace Fragment

variable {f f' : Fragment}

theorem LiveAt.stop_lt {g : Graph} {start : Nat} (h : f.LiveAt g start)
    (hs : start < g.states.size) : (f start g).1 < (f start g).2.states.size :=
  h.stop.lt hs h.enlarges.size_le

theorem live_skip : Live skip := by
  intro g start hg hs
  refine ⟨.refl hg, .inl rfl, fun s within => ?_⟩
  obtain rfl : s = start := by
    have bounds : s = start ∨ g.states.size ≤ s ∧ s < g.states.size := within
    omega
  exact .refl

theorem live_leaf (l : Leaf) : Live (leaf l) := by
  intro g start hg hs
  obtain ⟨E, grown, spans, within, words_eq⟩ := reads_leaf (P := fun _ => True) (l := l) trivial g
    start hg hs
  have size_eq : (leaf l start g).2.states.size = g.states.size + 1 := by simp [leaf]
  have step : (start, some l, g.states.size) ∈ (leaf l start g).2.transitions := by
    rw [Graph.mem_transitions_some]
    refine ⟨g.leaves.size, ?_, by simp [leaf]⟩
    unfold leaf
    dsimp only
    rw [Graph.addEdge_edgesFrom (by simp; omega), if_pos rfl]
    simp
  refine ⟨grown.enlarges, within, fun s hs' => ?_⟩
  rw [size_eq] at hs'
  have bounds : s = start ∨ g.states.size ≤ s ∧ s < g.states.size + 1 := hs'
  by_cases first : s = start
  · rw [first]
    exact .single ⟨some l, step⟩
  · obtain rfl : s = g.states.size := by omega
    exact .refl

theorem Live.andThen (hf : f.Live) (hf' : f'.Live) : (andThen f f').Live := by
  intro g start hg hs
  have first := hf g start hg hs
  have second := hf' _ (f start g).1 first.enlarges.wellFormed (first.stop_lt hs)
  have onward := second.leads _ (.inl rfl)
  have hle := first.enlarges.size_le
  have hle' := second.enlarges.size_le
  refine ⟨first.enlarges.trans second.enlarges, first.stop.join second.stop hle hle', ?_⟩
  intro s within
  rw [andThen_apply] at within ⊢
  -- a state of the first part goes on through the second
  by_cases inside : Within start g.states.size (f start g).2.states.size s
  · exact ((first.leads s inside).mono second.enlarges).trans onward
  · apply second.leads s
    unfold Within at *
    omega

theorem live_sequence {fs : List Fragment} (h : ∀ f ∈ fs, f.Live) : (sequence fs).Live := by
  induction fs with
  | nil => exact live_skip
  | cons f fs ih =>
    have later : (sequence fs).Live := ih fun f' hf' => h f' (by simp [hf'])
    exact (h f (by simp)).andThen later

theorem Live.times (hf : f.Live) (n : Nat) : (times n f).Live := by
  induction n with
  | zero => exact live_skip
  | succ n ih => exact hf.andThen ih

/-! ## Repetition and choice -/

theorem Live.upToFrom (hf : f.Live) {g : Graph} {start exit : Nat} (n : Nat) (hg : g.WellFormed)
    (hs : start < g.states.size) (he : exit < g.states.size) :
    g.Drains exit (upToFrom f exit n start g) ∧ (upToFrom f exit n start g).Leads start exit := by
  induction n generalizing g start with
  | zero =>
    refine ⟨⟨Graph.enlarges_addSilent hg hs he, fun s lo hi => ?_⟩, Graph.leads_addSilent hs⟩
    have same : (g.addSilent start exit).states.size = g.states.size := Graph.addSilent_size _ _
    have hi' : s < (g.addSilent start exit).states.size := hi
    omega
  | succ n ih =>
    have left := Graph.enlarges_addSilent hg hs he
    have hs' : start < (g.addSilent start exit).states.size := by simpa using hs
    have part := hf _ start left.wellFormed hs'
    have hle := part.enlarges.size_le
    rw [Graph.addSilent_size] at hle
    obtain ⟨drains, onward⟩ := ih part.enlarges.wellFormed (part.stop_lt hs') (by omega)
    have whole := (left.trans part.enlarges).trans drains.enlarges
    refine ⟨⟨whole, fun s lo hi => ?_⟩, ?_⟩
    · -- a state of the first copy leads through the copies behind it
      by_cases inside : s < (f start (g.addSilent start exit)).2.states.size
      · have within : s = start ∨ (g.addSilent start exit).states.size ≤ s ∧
            s < (f start (g.addSilent start exit)).2.states.size := by
          rw [Graph.addSilent_size]
          exact .inr ⟨lo, inside⟩
        exact ((part.leads s within).mono drains.enlarges).trans onward
      · exact drains.leads s (by omega) hi
    · exact (Graph.leads_addSilent hs).mono (part.enlarges.trans drains.enlarges)

theorem drains_alternatives {fs : List Fragment} (h : ∀ f ∈ fs, f.Live) {g : Graph}
    (start stop : Nat) (hg : g.WellFormed) (hs : start < g.states.size)
    (ht : stop < g.states.size) :
    g.Drains stop (alternatives start stop fs g) ∧
      (fs ≠ [] → (alternatives start stop fs g).Leads start stop) := by
  induction fs generalizing g with
  | nil =>
    have unchanged : alternatives start stop [] g = g := rfl
    rw [unchanged]
    exact ⟨⟨.refl hg, fun s lo hi => by omega⟩, fun none => absurd rfl none⟩
  | cons f fs ih =>
    have part := h f (by simp) g start hg hs
    have hle := part.enlarges.size_le
    have left := Graph.enlarges_addSilent (t := stop) part.enlarges.wellFormed (part.stop_lt hs)
      (by omega)
    have out : ((f start g).2.addSilent (f start g).1 stop).Leads (f start g).1 stop :=
      Graph.leads_addSilent (part.stop_lt hs)
    obtain ⟨drains, -⟩ := ih (fun f' hf' => h f' (by simp [hf'])) left.wellFormed
      (by simp; omega) (by simp; omega)
    have through {s : Nat} (within : Within start g.states.size (f start g).2.states.size s) :
        (alternatives start stop (f :: fs) g).Leads s stop :=
      ((part.leads s within).mono (left.trans drains.enlarges)).trans (out.mono drains.enlarges)
    refine ⟨⟨(part.enlarges.trans left).trans drains.enlarges, fun s lo hi => ?_⟩, fun _ => ?_⟩
    · by_cases inside : s < (f start g).2.states.size
      · exact through (.inr ⟨lo, inside⟩)
      · apply drains.leads s _ hi
        simp only [Graph.addSilent_size]
        omega
    · exact through (.inl rfl)

/-- A part that leads to a state which was added for it. -/
theorem liveAt_of_drains {g g' : Graph} {start : Nat} (hg : g.WellFormed)
    (happly : f start g = (g.states.size, g')) (h : g.addState.2.Drains g.states.size g')
    (onward : g'.Leads start g.states.size) : f.LiveAt g start := by
  have whole := (Graph.enlarges_addState hg).trans h.enlarges
  have hle := h.enlarges.size_le
  have hleads := h.leads
  rw [Graph.addState_size] at hle hleads
  refine ⟨by rwa [happly], by rw [happly]; exact .inr ⟨le_rfl, hle⟩, fun s within => ?_⟩
  rw [happly] at within ⊢
  rcases within with rfl | ⟨lo, hi⟩
  · exact onward
  · by_cases last : s = g.states.size
    · rw [last]
      exact .refl
    · exact hleads s (by omega) hi

theorem Live.upTo (hf : f.Live) (n : Nat) : (upTo n f).Live := by
  intro g start hg hs
  have added := Graph.enlarges_addState hg
  have hs' : start < g.addState.2.states.size := by simp; omega
  have he : g.states.size < g.addState.2.states.size := by simp
  obtain ⟨drains, onward⟩ := hf.upToFrom n added.wellFormed hs' he
  exact liveAt_of_drains hg rfl drains onward

theorem live_choice {fs : List Fragment} (h : ∀ f ∈ fs, f.Live) (some : fs ≠ []) :
    (choice fs).Live := by
  intro g start hg hs
  have added := Graph.enlarges_addState hg
  obtain ⟨drains, onward⟩ := drains_alternatives h start g.states.size added.wellFormed
    (by simp; omega) (by simp)
  exact liveAt_of_drains hg rfl drains (onward some)

theorem live_anyOrder {fs : List Fragment} (h : ∀ f ∈ fs, f.Live) : (anyOrder fs).Live := by
  intro g start hg hs
  have added := Graph.enlarges_addState hg
  have hs' : start < g.addState.2.states.size := by simp; omega
  have entered := Graph.enlarges_addSilent (t := g.states.size) added.wellFormed hs' (by simp)
  obtain ⟨drains, -⟩ := drains_alternatives h g.states.size g.states.size entered.wellFormed
    (by simp) (by simp)
  have drains' : g.addState.2.Drains g.states.size (anyOrder fs start g).2 :=
    ⟨entered.trans drains.enlarges, fun s lo hi => drains.leads s (by simpa using lo) hi⟩
  have enters : (anyOrder fs start g).2.Leads start g.states.size :=
    (Graph.leads_addSilent hs').mono drains.enlarges
  exact liveAt_of_drains hg rfl drains' enters

theorem Live.star (hf : f.Live) : (star f).Live := by
  have once : (anyOrder [f]).Live := live_anyOrder (by simpa using hf)
  exact once

theorem Live.occurs (hf : f.Live) (min : Nat) (max : MaxOccurs) : (occurs min max f).Live := by
  unfold Fragment.occurs
  dsimp only
  split
  · exact live_skip
  · exact (hf.times _).andThen (hf.upTo _)
  · exact (hf.times _).andThen hf.star

end Fragment

/-! ## Particles -/

namespace Globals

variable {globals : Globals} {levels : Nat}

/-- No choice is empty that is nested in the particle, inside at most so many references to model
groups. -/
def NoEmptyChoice (globals : Globals) (levels : Nat) (p : Particle ElementDecl) : Prop :=
  ∀ n ≤ levels, ∀ q, globals.Nested p n q → q.term ≠ .choice []

theorem NoEmptyChoice.of_mem {p q : Particle ElementDecl} (h : globals.NoEmptyChoice levels p)
    (hq : q ∈ p.term.members) : globals.NoEmptyChoice levels q :=
  fun n hn r nested => h n hn r (.member hq nested)

theorem NoEmptyChoice.of_group {p q : Particle ElementDecl} {name : QName}
    (h : globals.NoEmptyChoice (levels + 1) p) (ref : p.term = .groupRef name)
    (found : globals.group? name = some q) : globals.NoEmptyChoice levels q :=
  fun n hn r nested => h (n + 1) (by omega) r (.group ref found nested)

section Step

variable {group : QName → Fragment}

/-- The groups that particles refer to are live, if there are no empty choices in them. -/
def GroupsLive (globals : Globals) (levels : Nat) (group : QName → Fragment) : Prop :=
  ∀ p name, globals.NoEmptyChoice levels p → p.term = .groupRef name → (group name).Live

mutual

theorem live_particle_step (groups : globals.GroupsLive levels group) :
    ∀ p : Particle ElementDecl, globals.NoEmptyChoice levels p →
    (p.fragment globals group).Live
  | ⟨min, max, term⟩, h => by
    rw [Particle.fragment]
    exact (live_term_step groups term min max h).occurs min max

theorem live_term_step (groups : globals.GroupsLive levels group) :
    ∀ (term : Term ElementDecl) (min : Nat) (max : MaxOccurs),
    globals.NoEmptyChoice levels ⟨min, max, term⟩ → (term.fragment globals group).Live
  | .element declaration, _, _, _ => by
    rw [Term.fragment]
    exact live_leaf _
  | .elementRef name, _, _, _ => by
    rw [Term.fragment]
    exact live_leaf _
  | .wildcard wildcard, _, _, _ => by
    rw [Term.fragment]
    exact live_leaf _
  | .sequence items, _, _, h => by
    rw [Term.fragment]
    exact live_sequence (live_items_step groups items fun q hq => h.of_mem hq)
  | .choice items, min, max, h => by
    rw [Term.fragment]
    refine live_choice (live_items_step groups items fun q hq => h.of_mem hq) ?_
    have nonempty := h 0 (Nat.zero_le _) _ (.refl ⟨min, max, .choice items⟩)
    cases items with
    | nil => exact absurd rfl nonempty
    | cons p ps => simp [Particle.fragments]
  | .all items, _, _, h => by
    rw [Term.fragment]
    exact live_anyOrder (live_terms_step groups items fun q hq => h.of_mem hq)
  | .groupRef name, _, _, h => by
    rw [Term.fragment]
    exact groups _ name h rfl

theorem live_items_step (groups : globals.GroupsLive levels group) :
    ∀ items : List (Particle ElementDecl), (∀ q ∈ items, globals.NoEmptyChoice levels q) →
    ∀ f ∈ Particle.fragments globals group items, f.Live
  | [], _ => by simp [Particle.fragments]
  | p :: ps, h => by
    rw [Particle.fragments, List.forall_mem_cons]
    exact ⟨live_particle_step groups p (h p (by simp)),
      live_items_step groups ps fun q hq => h q (by simp [hq])⟩

theorem live_terms_step (groups : globals.GroupsLive levels group) :
    ∀ items : List (Particle ElementDecl), (∀ q ∈ items, globals.NoEmptyChoice levels q) →
    ∀ f ∈ Particle.termFragments globals group items, f.Live
  | [], _ => by simp [Particle.termFragments]
  | ⟨min, max, term⟩ :: ps, h => by
    rw [Particle.termFragments, List.forall_mem_cons]
    exact ⟨live_term_step groups term min max (h _ (by simp)),
      live_terms_step groups ps fun q hq => h q (by simp [hq])⟩

end

end Step

/-- Without empty choices, the fragment of a particle is live, at every depth of references. -/
theorem live_particle (levels : Nat) (p : Particle ElementDecl)
    (h : globals.NoEmptyChoice levels p) :
    (p.fragment globals (globals.groupFragment levels)).Live := by
  induction levels generalizing p with
  | zero => exact live_particle_step (fun _ _ _ _ => live_skip) p h
  | succ levels ih =>
    refine live_particle_step (fun q name hq ref => ?_) p h
    rw [groupFragment]
    cases found : globals.group? name with
    | none => exact live_skip
    | some r => exact ih r (hq.of_group ref found)

/-- Without empty choices, every state of the automaton leads to the accepting one. -/
theorem live_automaton {p : Particle ElementDecl} (h : globals.NoEmptyChoice 16 p) :
    ∀ s < (globals.automaton p).states.size,
      (globals.automaton p).Leads s (globals.automaton p).accept := by
  intro s hs
  have live := live_particle 16 p h Graph.initial 0 Graph.wellFormed_initial (by decide)
  apply live.leads
  by_cases first : s = 0
  · exact .inl first
  · have size_initial : Graph.initial.states.size = 1 := rfl
    exact .inr ⟨by omega, hs⟩

end Globals

end XmlSchema

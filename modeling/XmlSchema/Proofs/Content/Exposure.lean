import XmlSchema.Proofs.Content.Language

/-!
# Leaves within reach

A part of an automaton exposes the leaves of the steps that walks from its start come to
(`Transitions.exposed`).  `Fragment.Exposes f L N` says that the fragment `f` adds a part which
reads the language `L` and exposes the leaves `N`.  There is one theorem for each way to put
fragments together.  Of parts in a row, a later one is within reach only if the language of those
before it is not empty; a part that may not occur exposes nothing.
-/

namespace XmlSchema

open Computability Transitions

/-! ## Transitions -/

namespace Transitions

/-- The leaves of the steps that walks from a state come to. -/
def exposed (E : Transitions) (start : Nat) : Set Leaf :=
  {leaf | ∃ s t, (s, some leaf, t) ∈ E ∧ ∃ w, Walk E start w s}

variable {E F : Transitions} {start middle stop lo mid hi : Nat} {X : Set Nat}

theorem mem_exposed {leaf : Leaf} :
    leaf ∈ E.exposed start ↔ ∃ s t, (s, some leaf, t) ∈ E ∧ ∃ w, Walk E start w s := Iff.rfl

theorem exposed_empty (start : Nat) : exposed ∅ start = ∅ := by
  ext leaf
  simp [mem_exposed]

theorem exposed_mono (h : E ⊆ F) : E.exposed start ⊆ F.exposed start := by
  rintro leaf ⟨s, t, step, w, walk⟩
  exact ⟨s, t, h step, w, walk.mono h⟩

/-- A walk to a state of a part stays in the part, if no other steps lead into it. -/
theorem Spans.walk_within (hE : E.Spans start lo hi)
    (outside : ∀ s l t, (s, l, t) ∈ F → ¬ Within start lo hi t) {s : Nat} {w : List QName}
    (hs : Within start lo hi s) (walk : Walk (E ∪ F) start w s) : Walk E start w s := by
  refine (walk.corestrict (P := Within start lo hi) ?_ hs).1
  rintro s l t ht (step | step)
  · exact ⟨step, (hE s l t step).1⟩
  · exact absurd ht (outside s l t step)

/-- Two parts in a row. -/
theorem exposed_join (hE : E.Spans start lo mid) (hF : F.Spans middle mid hi) (hlt : start < lo)
    (hm : Within start lo mid middle) (hle : lo ≤ mid) :
    exposed (E ∪ F) start =
      E.exposed start ∪ {leaf | (E.words start {middle}).Nonempty ∧ leaf ∈ F.exposed middle} := by
  ext leaf
  constructor
  · rintro ⟨s, t, step | step, w, walk⟩
    · have outside : ∀ s l t, (s, l, t) ∈ F → ¬ Within start lo mid t := by
        intro s l t step ht
        have bounds := (hF s l t step).2
        unfold Within at ht
        omega
      exact .inl ⟨s, t, step, w, hE.walk_within outside (hE _ _ _ step).1 walk⟩
    · have arrives : w ∈ words (E ∪ F) start {s} := mem_words_singleton.2 walk
      rw [words_join hE hF hlt hm hle (by simpa using (hF _ _ _ step).1),
        Language.mem_mul] at arrives
      obtain ⟨u, first, v, second, -⟩ := arrives
      exact .inr ⟨⟨u, first⟩, s, t, step, v, mem_words_singleton.1 second⟩
  · rintro (first | ⟨⟨u, first⟩, s, t, step, v, second⟩)
    · exact exposed_mono Set.subset_union_left first
    · have through := (mem_words_singleton.1 first).mono (Set.subset_union_left (t := F))
      exact ⟨s, t, .inr step, u ++ v, through.trans (second.mono Set.subset_union_right)⟩

/-- Two parts side by side. -/
theorem exposed_beside (hE : E.Spans start lo mid) (hF : F.Spans start mid hi) (hlt : start < lo)
    (hle : lo ≤ mid) : exposed (E ∪ F) start = E.exposed start ∪ F.exposed start := by
  have outside : ∀ s l t, (s, l, t) ∈ F → ¬ Within start lo mid t := by
    intro s l t step ht
    have bounds := (hF s l t step).2
    unfold Within at ht
    omega
  have outside' : ∀ s l t, (s, l, t) ∈ E → ¬ Within start mid hi t := by
    intro s l t step ht
    have bounds := (hE s l t step).2
    unfold Within at ht
    omega
  ext leaf
  constructor
  · rintro ⟨s, t, step | step, w, walk⟩
    · exact .inl ⟨s, t, step, w, hE.walk_within outside (hE _ _ _ step).1 walk⟩
    · rw [Set.union_comm] at walk
      exact .inr ⟨s, t, step, w, hF.walk_within outside' (hF _ _ _ step).1 walk⟩
  · rintro (first | second)
    · exact exposed_mono Set.subset_union_left first
    · exact exposed_mono Set.subset_union_right second

/-- A part that is left to a state outside of it. -/
theorem exposed_exits (hE : E.Spans start lo hi) (hstop : ¬ Within start lo hi stop) :
    exposed (E ∪ exits X stop) start = E.exposed start := by
  have outside : ∀ s l t, (s, l, t) ∈ exits X stop → ¬ Within start lo hi t := by
    intro s l t step
    rw [mem_exits] at step
    rwa [step.2.2]
  ext leaf
  constructor
  · rintro ⟨s, t, step | step, w, walk⟩
    · exact ⟨s, t, step, w, hE.walk_within outside (hE _ _ _ step).1 walk⟩
    · simp at step
  · exact fun exposed => exposed_mono Set.subset_union_left exposed

/-- Since its last return to the start, a walk has stayed in the part. -/
theorem exists_walk_of_loop {s r : Nat} {w : List QName} (walk : Walk (E ∪ exits X start) s w r) :
    (∃ u, Walk E s u r) ∨ ∃ u, Walk E start u r := by
  induction walk with
  | refl s => exact .inl ⟨[], .refl s⟩
  | silent step _ ih =>
    rcases ih with ⟨u, rest⟩ | late
    · rcases step with step | step
      · exact .inl ⟨u, .silent step rest⟩
      · obtain ⟨-, -, rfl⟩ := mem_exits.1 step
        exact .inr ⟨u, rest⟩
    · exact .inr late
  | @read s t r leaf name w step admits _ ih =>
    rcases ih with ⟨u, rest⟩ | late
    · rcases step with step | step
      · exact .inl ⟨name :: u, .read step admits rest⟩
      · simp at step
    · exact .inr late

/-- A part that is left to its own start. -/
theorem exposed_loop : exposed (E ∪ exits X start) start = E.exposed start := by
  ext leaf
  constructor
  · rintro ⟨s, t, step | step, w, walk⟩
    · exact ⟨s, t, step, (exists_walk_of_loop walk).elim id id⟩
    · simp at step
  · exact fun exposed => exposed_mono Set.subset_union_left exposed

/-- A silent step that leads to transitions elsewhere. -/
theorem exposed_entry {head : Nat} (hhead : head ≠ start)
    (hF : ∀ s l t, (s, l, t) ∈ F → s ≠ start ∧ t ≠ start) :
    exposed ({(start, none, head)} ∪ F) start = F.exposed head := by
  ext leaf
  constructor
  · rintro ⟨s, t, step | step, w, walk⟩
    · simp at step
    · have arrives : w ∈ words ({(start, none, head)} ∪ F) start {s} := mem_words_singleton.2 walk
      rw [words_entry hhead hF (by simpa using (hF _ _ _ step).1.symm)] at arrives
      exact ⟨s, t, step, w, mem_words_singleton.1 arrives⟩
  · rintro ⟨s, t, step, w, walk⟩
    exact ⟨s, t, .inr step, w, .silent (.inl rfl) (walk.mono Set.subset_union_right)⟩

end Transitions

/-! ## Fragments -/

/-- The transitions of a graph that lead to states which an earlier one does not have. -/
def Graph.added (g g' : Graph) : Transitions := {e | e ∈ g'.transitions ∧ g.states.size ≤ e.2.2}

/-- The fragment adds to every graph a part that reads the language and exposes the leaves. -/
structure Fragment.Exposes (f : Fragment) (L : Language QName) (N : Set Leaf) : Prop where
  reads : Reads (fun _ => True) f L
  exposed : ∀ (g : Graph) (start : Nat), g.WellFormed → start < g.states.size →
    (g.added (f start g).2).exposed start = N

namespace Graph

variable {P : Leaf → Prop} {E F : Transitions} {X : Set Nat} {g g' : Graph} {start stop hi : Nat}

/-- Of the transitions with which a graph has grown, those that lead to new states are added. -/
theorem added_eq_of_union (hg : g.WellFormed) (grown : g.Grows P (E ∪ F) g')
    (spans : E.Spans start g.states.size hi) (old : ∀ s l t, (s, l, t) ∈ F → t < g.states.size) :
    g.added g' = E := by
  ext ⟨s, l, t⟩
  constructor
  · rintro ⟨step, new⟩
    have new : g.states.size ≤ t := new
    rw [grown.transitions_eq] at step
    rcases step with before | step | back
    · have bounds := hg.lt_size before
      omega
    · exact step
    · have bound := old s l t back
      omega
  · intro step
    refine ⟨?_, (spans s l t step).2.1⟩
    rw [grown.transitions_eq]
    exact .inr (.inl step)

theorem added_eq (hg : g.WellFormed) (grown : g.Grows P E g')
    (spans : E.Spans start g.states.size hi) : g.added g' = E := by
  rw [← Set.union_empty E] at grown
  exact added_eq_of_union hg grown spans fun _ _ _ step => step.elim

theorem added_eq_of_exits (hg : g.WellFormed) (grown : g.Grows P (E ∪ exits X stop) g')
    (spans : E.Spans start g.states.size hi) (hstop : stop < g.states.size) : g.added g' = E := by
  refine added_eq_of_union hg grown spans fun s l t step => ?_
  rwa [(mem_exits.1 step).2.2]

/-- The transitions of a part that leads to a state which was there before, and what they expose. -/
theorem LeadsTo.exists_part {L : Language QName} {N : Set Leaf} (h : g.LeadsTo P start stop L g')
    (hg : g.WellFormed) (hstop : stop < g.states.size)
    (exposed : (g.added g').exposed start = N) :
    ∃ (E : Transitions) (X : Set Nat), g.Grows P (E ∪ exits X stop) g' ∧
      E.Spans start g.states.size g'.states.size ∧
      (∀ x ∈ X, Within start g.states.size g'.states.size x) ∧ E.exposed start = N := by
  obtain ⟨E, X, grown, spans, within, -⟩ := h
  rw [added_eq_of_exits hg grown spans hstop] at exposed
  exact ⟨E, X, grown, spans, within, exposed⟩

end Graph

namespace Fragment

variable {f f' : Fragment} {L L' : Language QName} {N N' : Set Leaf}

/-- The transitions of the part that a fragment adds, and what they read and expose. -/
theorem Exposes.exists_part (hf : f.Exposes L N) {g : Graph} {start : Nat} (hg : g.WellFormed)
    (hs : start < g.states.size) :
    ∃ E : Transitions, g.Grows (fun _ => True) E (f start g).2 ∧
      E.Spans start g.states.size (f start g).2.states.size ∧
      Within start g.states.size (f start g).2.states.size (f start g).1 ∧
      E.words start {(f start g).1} = L ∧ E.exposed start = N := by
  obtain ⟨E, grown, spans, within, reads⟩ := hf.reads g start hg hs
  have exposed := hf.exposed g start hg hs
  rw [Graph.added_eq hg grown spans] at exposed
  exact ⟨E, grown, spans, within, reads, exposed⟩

theorem exposes_skip : skip.Exposes 1 ∅ := by
  refine ⟨reads_skip, fun g start hg hs => ?_⟩
  have grown : g.Grows (fun _ => True) ∅ (skip start g).2 := .refl hg
  have spans : Spans ∅ start g.states.size g.states.size := spans_empty
  rw [Graph.added_eq hg grown spans, exposed_empty]

theorem exposes_leaf (l : Leaf) : (leaf l).Exposes l.language {l} := by
  refine ⟨reads_leaf trivial, fun g start hg hs => ?_⟩
  have grown : g.Grows (fun _ => True) _ (leaf l start g).2 := grows_leaf hg hs trivial
  rw [Graph.added_eq hg grown (spans_leaf g start l)]
  ext other
  simp only [mem_exposed, Set.mem_singleton_iff, Prod.mk.injEq, Option.some.injEq]
  constructor
  · rintro ⟨s, t, ⟨-, same, -⟩, -⟩
    exact same
  · rintro rfl
    exact ⟨start, g.states.size, ⟨rfl, rfl, rfl⟩, [], .refl start⟩

theorem Exposes.andThen (hf : f.Exposes L N) (hf' : f'.Exposes L' N') :
    (andThen f f').Exposes (L * L') (N ∪ {leaf | L.Nonempty ∧ leaf ∈ N'}) := by
  refine ⟨hf.reads.andThen hf'.reads, fun g start hg hs => ?_⟩
  obtain ⟨E, grown, spans, within, reads, first⟩ := hf.exists_part hg hs
  obtain ⟨F, grown', spans', -, -, second⟩ :=
    hf'.exists_part grown.wellFormed (within.lt hs grown.size_le)
  have whole := spans.join spans' within grown.size_le grown'.size_le
  rw [andThen_apply, Graph.added_eq hg (grown.trans grown') whole,
    exposed_join spans spans' hs within grown.size_le, reads, first, second]

/-- Further copies behind a part expose no more than the part does. -/
theorem union_repeated_eq (L : Language QName) (N : Set Leaf) (n : Nat) :
    N ∪ {leaf | L.Nonempty ∧ leaf ∈ if n = 0 then ∅ else N} = N := by
  refine Set.union_eq_left.2 ?_
  rintro leaf ⟨-, mem⟩
  split at mem
  · exact mem.elim
  · exact mem

theorem Exposes.times (hf : f.Exposes L N) (n : Nat) :
    (times n f).Exposes (L ^ n) (if n = 0 then ∅ else N) := by
  induction n with
  | zero => exact exposes_skip
  | succ n ih =>
    have whole := hf.andThen ih
    rw [union_repeated_eq] at whole
    rw [pow_succ', if_neg (Nat.succ_ne_zero n)]
    exact whole

/-! ## Repetition and choice -/

theorem forall₂_reads {ι : Type} {Ls : ι → Language QName} {Ns : ι → Set Leaf} {fs : List Fragment}
    {xs : List ι} (h : List.Forall₂ (fun f x => f.Exposes (Ls x) (Ns x)) fs xs) :
    List.Forall₂ (Reads fun _ => True) fs (xs.map Ls) :=
  List.forall₂_map_right_iff.2 (h.imp fun _ _ exposes => exposes.reads)

theorem Exposes.upToFrom (hf : f.Exposes L N) {g : Graph} {start exit : Nat} (n : Nat)
    (hg : g.WellFormed) (hs : start < g.states.size) (he : exit < g.states.size) :
    (g.added (upToFrom f exit n start g)).exposed start = if n = 0 then ∅ else N := by
  induction n generalizing g start with
  | zero =>
    have left : g.Grows (fun _ => True) (∅ ∪ exits ({start} ∪ ∅) exit)
        (g.addSilent start exit) := by
      rw [exits_insert, exits_empty, Set.union_empty, Set.empty_union]
      exact Graph.grows_addSilent hg hs he
    have idle : Spans ∅ start g.states.size g.states.size := spans_empty
    show (g.added (g.addSilent start exit)).exposed start = ∅
    rw [Graph.added_eq_of_exits hg left idle he, exposed_empty]
  | succ n ih =>
    have left := Graph.grows_addSilent (P := fun _ => True) hg hs he
    have hs' : start < (g.addSilent start exit).states.size := by simpa using hs
    obtain ⟨E, grown, spans, within, -, first⟩ := hf.exists_part left.wellFormed hs'
    rw [Graph.addSilent_size] at spans within
    have hle : g.states.size ≤ (f start (g.addSilent start exit)).2.states.size := by
      simpa using grown.size_le
    have hmiddle := within.lt hs hle
    have he' : exit < (f start (g.addSilent start exit)).2.states.size := by omega
    obtain ⟨F, X, grown', spans', -, second⟩ :=
      (hf.reads.upToFrom n grown.wellFormed hmiddle he').exists_part grown.wellFormed he'
        (ih grown.wellFormed hmiddle he')
    have whole : g.Grows (fun _ => True) (E ∪ F ∪ exits ({start} ∪ X) exit)
        (Fragment.upToFrom f exit (n + 1) start g) := by
      have regroup : E ∪ F ∪ ({(start, none, exit)} ∪ exits X exit) =
          {(start, none, exit)} ∪ E ∪ (F ∪ exits X exit) := by ac_rfl
      rw [exits_insert, regroup]
      exact (left.trans grown).trans grown'
    rw [Graph.added_eq_of_exits hg whole (spans.join spans' within hle grown'.size_le) he,
      exposed_join spans spans' hs within hle, first, second, union_repeated_eq,
      if_neg (Nat.succ_ne_zero n)]

theorem exposed_alternatives {ι : Type} {Ls : ι → Language QName} {Ns : ι → Set Leaf}
    {fs : List Fragment} {xs : List ι} (h : List.Forall₂ (fun f x => f.Exposes (Ls x) (Ns x)) fs xs)
    {g : Graph} (start stop : Nat) (hg : g.WellFormed) (hs : start < g.states.size)
    (ht : stop < g.states.size) :
    (g.added (alternatives start stop fs g)).exposed start = {leaf | ∃ x ∈ xs, leaf ∈ Ns x} := by
  induction h generalizing g with
  | nil =>
    have grown : g.Grows (fun _ => True) ∅ g := .refl hg
    have spans : Spans ∅ start g.states.size g.states.size := spans_empty
    show (g.added g).exposed start = _
    rw [Graph.added_eq hg grown spans, exposed_empty]
    simp
  | @cons f x fs xs hf rest ih =>
    obtain ⟨E, grown, spans, within, -, first⟩ := hf.exists_part hg hs
    have hle := grown.size_le
    have left := Graph.grows_addSilent (P := fun _ => True) (s := (f start g).1) (t := stop)
      grown.wellFormed (within.lt hs hle) (by omega)
    have hs' : start < ((f start g).2.addSilent (f start g).1 stop).states.size := by simp; omega
    have ht' : stop < ((f start g).2.addSilent (f start g).1 stop).states.size := by simp; omega
    obtain ⟨F, X, grown', spans', -, later⟩ :=
      (leadsTo_alternatives (forall₂_reads rest) start stop left.wellFormed hs' ht').exists_part
        left.wellFormed ht' (ih left.wellFormed hs' ht')
    have hle' := grown'.size_le
    rw [Graph.addSilent_size] at spans' hle'
    have whole : g.Grows (fun _ => True) (E ∪ F ∪ exits ({(f start g).1} ∪ X) stop)
        (alternatives start stop (f :: fs) g) := by
      have regroup : E ∪ F ∪ ({((f start g).1, none, stop)} ∪ exits X stop) =
          E ∪ {((f start g).1, none, stop)} ∪ (F ∪ exits X stop) := by ac_rfl
      rw [exits_insert, regroup]
      exact (grown.trans left).trans grown'
    have side : (E ∪ F).Spans start g.states.size _ :=
      (spans.mono le_rfl hle').union (spans'.mono hle le_rfl)
    rw [Graph.added_eq_of_exits hg whole side ht, exposed_beside spans spans' hs hle, first, later]
    ext leaf
    simp

/-- A part that leads to a state which was added for it. -/
theorem exposed_of_leadsTo {P : Leaf → Prop} {g g' : Graph} {start : Nat} (hg : g.WellFormed)
    (hs : start < g.states.size) (h : g.addState.2.LeadsTo P start g.states.size L g') :
    (g.added g').exposed start = (g.addState.2.added g').exposed start := by
  obtain ⟨E, X, grown, spans, within, -⟩ := h
  have grown_initial := Graph.grows_addState (P := P) hg
  have hle := grown.size_le
  have part := Graph.added_eq_of_exits grown_initial.wellFormed grown spans (by simp)
  rw [Graph.addState_size] at spans within hle
  have total := grown_initial.trans grown
  rw [Set.empty_union] at total
  have side : (E ∪ exits X g.states.size).Spans start g.states.size g'.states.size :=
    (spans.mono (by omega) le_rfl).union
      (spans_exits (fun x hx => (within x hx).mono (by omega) le_rfl) le_rfl (by omega))
  rw [part, Graph.added_eq hg total side, exposed_exits spans (by unfold Within; omega)]

theorem Exposes.upTo (hf : f.Exposes L N) (n : Nat) :
    (upTo n f).Exposes (repetitions L 0 (some n)) (if n = 0 then ∅ else N) := by
  refine ⟨hf.reads.upTo n, fun g start hg hs => ?_⟩
  have added := Graph.grows_addState (P := fun _ => True) hg
  have hs' : start < g.addState.2.states.size := by simp; omega
  have he : g.states.size < g.addState.2.states.size := by simp
  rw [← hf.upToFrom n added.wellFormed hs' he]
  exact exposed_of_leadsTo hg hs (hf.reads.upToFrom n added.wellFormed hs' he)

section Alternatives

variable {ι : Type} {Ls : ι → Language QName} {Ns : ι → Set Leaf} {fs : List Fragment} {xs : List ι}
  (h : List.Forall₂ (fun f x => f.Exposes (Ls x) (Ns x)) fs xs)

include h

theorem exposes_choice : (choice fs).Exposes (xs.map Ls).sum {leaf | ∃ x ∈ xs, leaf ∈ Ns x} := by
  refine ⟨reads_choice (forall₂_reads h), fun g start hg hs => ?_⟩
  have added := Graph.grows_addState (P := fun _ => True) hg
  have hs' : start < g.addState.2.states.size := by simp; omega
  have ht : g.states.size < g.addState.2.states.size := by simp
  rw [← exposed_alternatives h start g.states.size added.wellFormed hs' ht]
  exact exposed_of_leadsTo hg hs
    (leadsTo_alternatives (forall₂_reads h) start _ added.wellFormed hs' ht)

theorem exposes_anyOrder :
    (anyOrder fs).Exposes (xs.map Ls).sum∗ {leaf | ∃ x ∈ xs, leaf ∈ Ns x} := by
  refine ⟨reads_anyOrder (forall₂_reads h), fun g start hg hs => ?_⟩
  have added := Graph.grows_addState (P := fun _ => True) hg
  have entered := Graph.grows_addSilent (P := fun _ => True) (s := start) (t := g.states.size)
    added.wellFormed (by simp; omega) (by simp)
  have hhead : g.states.size < (g.addState.2.addSilent start g.states.size).states.size := by simp
  obtain ⟨E, X, grown, spans, within, part⟩ :=
    (leadsTo_alternatives (forall₂_reads h) _ _ entered.wellFormed hhead hhead).exists_part
      entered.wellFormed hhead (exposed_alternatives h _ _ entered.wellFormed hhead hhead)
  have hle := grown.size_le
  have total := (added.trans entered).trans grown
  rw [Set.empty_union] at total
  rw [Graph.addSilent_size, Graph.addState_size] at spans within hle
  have apart : ∀ s l t, (s, l, t) ∈ E ∪ exits X g.states.size → s ≠ start ∧ t ≠ start := by
    intro s l t step
    have bounds := mem_loop_bounds spans within hle step
    omega
  have all_added : g.added (anyOrder fs start g).2 =
      {(start, none, g.states.size)} ∪ (E ∪ exits X g.states.size) :=
    Graph.added_eq hg total (spans_entered_loop spans within hle)
  rw [all_added, exposed_entry (by omega) apart, exposed_loop, part]

end Alternatives

theorem Exposes.star (hf : f.Exposes L N) : (star f).Exposes L∗ N := by
  have once : List.Forall₂ (fun f (_ : Unit) => f.Exposes L N) [f] [()] := .cons hf .nil
  have whole : (anyOrder [f]).Exposes L∗ N := by simpa using exposes_anyOrder once
  exact whole

/-! ## Occurrence bounds -/

/-- Copies of a part before another that exposes no more. -/
theorem Exposes.times_andThen (hf : f.Exposes L N) (hf' : f'.Exposes L' N') (n : Nat)
    (sub : N' ⊆ N) (first : n = 0 → N' = N) :
    (Fragment.andThen (Fragment.times n f) f').Exposes (L ^ n * L') N := by
  have whole := (hf.times n).andThen hf'
  have same : (if n = 0 then ∅ else N) ∪ {leaf | (L ^ n).Nonempty ∧ leaf ∈ N'} = N := by
    cases n with
    | zero =>
      have inhabited : (1 : Language QName).Nonempty := ⟨[], rfl⟩
      simp [first rfl, inhabited]
    | succ n =>
      rw [if_neg (Nat.succ_ne_zero n)]
      exact Set.union_eq_left.2 fun leaf mem => sub mem.2
  rwa [same] at whole

theorem expanded?_eq_zero {min : Nat} {max : MaxOccurs}
    (h : max.expanded? (Nat.min min expandedMin) = some 0) : min = 0 ∧ max = .bounded 0 := by
  cases max with
  | unbounded => simp [MaxOccurs.expanded?] at h
  | bounded n =>
    simp only [MaxOccurs.expanded?, Option.ite_none_right_eq_some, Option.some.injEq] at h
    have none : n = 0 ∧ Nat.min min expandedMin = 0 := Nat.max_eq_zero_iff.1 h.2
    have cut : min = 0 ∨ expandedMin = 0 := Nat.min_eq_zero_iff.1 none.2
    exact ⟨cut.resolve_right (by decide), by rw [none.1]⟩

/-- A part is out of reach if it may not occur, and only then. -/
theorem Exposes.occurs (hf : f.Exposes L N) (min : Nat) (max : MaxOccurs) :
    (occurs min max f).Exposes
      (repetitions L (Nat.min min expandedMin) (max.expanded? (Nat.min min expandedMin)))
      {leaf | ¬ (min = 0 ∧ max = .bounded 0) ∧ leaf ∈ N} := by
  by_cases void : min = 0 ∧ max = .bounded 0
  · obtain ⟨rfl, rfl⟩ := void
    have nothing : {leaf | ¬ (0 = 0 ∧ MaxOccurs.bounded 0 = .bounded 0) ∧ leaf ∈ N} = ∅ := by simp
    rw [nothing]
    exact ⟨hf.reads.occurs 0 (.bounded 0), exposes_skip.exposed⟩
  · have same : {leaf | ¬ (min = 0 ∧ max = .bounded 0) ∧ leaf ∈ N} = N := by simp [void]
    rw [same]
    refine ⟨hf.reads.occurs min max, ?_⟩
    unfold Fragment.occurs
    cases bound : max.expanded? (Nat.min min expandedMin) with
    | none => exact (hf.times_andThen hf.star _ subset_rfl fun _ => rfl).exposed
    | some n =>
      cases n with
      | zero => exact absurd (expanded?_eq_zero bound) void
      | succ n =>
        refine (hf.times_andThen (hf.upTo _) _ ?_ fun none => ?_).exposed
        · split
          · exact Set.empty_subset N
          · exact subset_rfl
        · rw [none, Nat.sub_zero, if_neg (Nat.succ_ne_zero n)]

/-- The automaton of a fragment exposes what the fragment exposes. -/
theorem Exposes.toAutomaton (hf : f.Exposes L N) :
    f.toAutomaton.transitions.exposed f.toAutomaton.start = N := by
  have hs : 0 < Graph.initial.states.size := by decide
  obtain ⟨E, grown, -, -, -, exposed⟩ := hf.exists_part Graph.wellFormed_initial hs
  have all_new : f.toAutomaton.transitions = E := by
    have grown_eq := grown.transitions_eq
    rwa [Graph.transitions_initial, Set.empty_union] at grown_eq
  rwa [all_new]

end Fragment

end XmlSchema

import XmlSchema.Proofs.Content.Walks

/-!
# What fragments read

`Fragment.Reads P f L` says that the fragment `f` adds to every well-formed graph a part which reads
the language `L` from its start to its end, with leaves that satisfy `P`.  What is added are the
transitions of `Graph.Grows`; the graph before keeps its own.  There is one theorem for each way to
put fragments together.  `Graph.LeadsTo` is the same for parts that are left to a state which is
there before them.
-/

namespace XmlSchema

open Computability Transitions

namespace Graph

/-- Every step leads to a state, and every labelled step has a leaf. -/
structure WellFormed (g : Graph) : Prop where
  silent_lt : ∀ s t, t ∈ g.silentFrom s → t < g.states.size
  edge_lt : ∀ s i t, (i, t) ∈ g.edgesFrom s → i < g.leaves.size ∧ t < g.states.size

/-- The steps of a graph. -/
def transitions (g : Graph) : Transitions :=
  {e | match e with
    | (s, none, t) => t ∈ g.silentFrom s
    | (s, some leaf, t) => ∃ i, (i, t) ∈ g.edgesFrom s ∧ g.leaves[i]? = some leaf}

variable {g : Graph}

theorem mem_transitions_none {s t : Nat} : (s, none, t) ∈ g.transitions ↔ t ∈ g.silentFrom s :=
  Iff.rfl

theorem mem_transitions_some {s t : Nat} {leaf : Leaf} :
    (s, some leaf, t) ∈ g.transitions ↔
      ∃ i, (i, t) ∈ g.edgesFrom s ∧ g.leaves[i]? = some leaf := Iff.rfl

theorem WellFormed.lt_size (h : g.WellFormed) {s t : Nat} {l : Option Leaf}
    (step : (s, l, t) ∈ g.transitions) : s < g.states.size ∧ t < g.states.size := by
  cases l with
  | none =>
    refine ⟨?_, h.silent_lt s t step⟩
    by_contra outside
    rw [mem_transitions_none, silentFrom, Array.getElem?_eq_none (by omega)] at step
    simp at step
  | some leaf =>
    obtain ⟨i, edge, -⟩ := mem_transitions_some.1 step
    refine ⟨?_, (h.edge_lt s i t edge).2⟩
    by_contra outside
    rw [edgesFrom, Array.getElem?_eq_none (by omega)] at edge
    simp at edge

/-! ## Adding states and steps -/

@[simp] theorem addState_fst : g.addState.1 = g.states.size := rfl

@[simp] theorem addState_size : g.addState.2.states.size = g.states.size + 1 := by
  simp [addState]

@[simp] theorem addState_silentFrom (s : Nat) : g.addState.2.silentFrom s = g.silentFrom s := by
  unfold silentFrom addState
  rw [Array.getElem?_push]
  split
  · next h => simp [h]
  · rfl

@[simp] theorem addState_edgesFrom (s : Nat) : g.addState.2.edgesFrom s = g.edgesFrom s := by
  unfold edgesFrom addState
  rw [Array.getElem?_push]
  split
  · next h => simp [h]
  · rfl

@[simp] theorem addState_leaves : g.addState.2.leaves = g.leaves := rfl

@[simp] theorem addSilent_size (s t : Nat) : (g.addSilent s t).states.size = g.states.size := by
  simp [addSilent]

@[simp] theorem addSilent_leaves (s t : Nat) : (g.addSilent s t).leaves = g.leaves := rfl

theorem addSilent_silentFrom {s t : Nat} (hs : s < g.states.size) (r : Nat) :
    (g.addSilent s t).silentFrom r =
      if r = s then g.silentFrom r ++ [t] else g.silentFrom r := by
  unfold silentFrom addSilent
  rw [Array.getElem?_modify]
  by_cases h : s = r
  · subst h
    simp [hs]
  · rw [if_neg h, if_neg (Ne.symm h)]

@[simp] theorem addSilent_edgesFrom (s t r : Nat) :
    (g.addSilent s t).edgesFrom r = g.edgesFrom r := by
  unfold edgesFrom addSilent
  rw [Array.getElem?_modify]
  split
  · cases g.states[r]? <;> rfl
  · rfl

@[simp] theorem addEdge_size (s i t : Nat) :
    (g.addEdge s i t).states.size = g.states.size := by
  simp [addEdge]

@[simp] theorem addEdge_leaves (s i t : Nat) : (g.addEdge s i t).leaves = g.leaves := rfl

theorem addEdge_edgesFrom {s i t : Nat} (hs : s < g.states.size) (r : Nat) :
    (g.addEdge s i t).edgesFrom r =
      if r = s then g.edgesFrom r ++ [(i, t)] else g.edgesFrom r := by
  unfold edgesFrom addEdge
  rw [Array.getElem?_modify]
  by_cases h : s = r
  · subst h
    simp [hs]
  · rw [if_neg h, if_neg (Ne.symm h)]

@[simp] theorem addEdge_silentFrom (s i t r : Nat) :
    (g.addEdge s i t).silentFrom r = g.silentFrom r := by
  unfold silentFrom addEdge
  rw [Array.getElem?_modify]
  split
  · cases g.states[r]? <;> rfl
  · rfl

/-! ## Growth -/

/-- The graph `g'` is `g` with further states and the transitions `E`, whose leaves satisfy `P`. -/
structure Grows (P : Leaf → Prop) (g : Graph) (E : Transitions) (g' : Graph) : Prop where
  wellFormed : g'.WellFormed
  size_le : g.states.size ≤ g'.states.size
  transitions_eq : g'.transitions = g.transitions ∪ E
  leaves : ∀ s leaf t, (s, some leaf, t) ∈ E → P leaf

variable {P : Leaf → Prop} {E F : Transitions} {g' g'' : Graph}

theorem Grows.refl (hg : g.WellFormed) : g.Grows P ∅ g where
  wellFormed := hg
  size_le := le_rfl
  transitions_eq := by rw [Set.union_empty]
  leaves _ _ _ step := step.elim

theorem Grows.trans (h : g.Grows P E g') (h' : g'.Grows P F g'') : g.Grows P (E ∪ F) g'' where
  wellFormed := h'.wellFormed
  size_le := h.size_le.trans h'.size_le
  transitions_eq := by rw [h'.transitions_eq, h.transitions_eq, Set.union_assoc]
  leaves s leaf t step := step.elim (h.leaves s leaf t) (h'.leaves s leaf t)

theorem grows_addState (hg : g.WellFormed) : g.Grows P ∅ g.addState.2 where
  wellFormed :=
    { silent_lt := by
        intro s t ht
        rw [addState_silentFrom] at ht
        have := hg.silent_lt s t ht
        rw [addState_size]
        omega
      edge_lt := by
        intro s i t ht
        rw [addState_edgesFrom] at ht
        have := hg.edge_lt s i t ht
        rw [addState_size, addState_leaves]
        omega }
  size_le := by simp
  transitions_eq := by
    rw [Set.union_empty]
    ext ⟨s, _ | leaf, t⟩
    · simp [mem_transitions_none]
    · simp [mem_transitions_some]
  leaves _ _ _ step := step.elim

theorem grows_addSilent {s t : Nat} (hg : g.WellFormed) (hs : s < g.states.size)
    (ht : t < g.states.size) : g.Grows P {(s, none, t)} (g.addSilent s t) where
  wellFormed :=
    { silent_lt := by
        intro r q hq
        rw [addSilent_silentFrom hs] at hq
        rw [addSilent_size]
        split at hq
        · rcases List.mem_append.1 hq with hq | hq
          · exact hg.silent_lt r q hq
          · rwa [List.mem_singleton.1 hq]
        · exact hg.silent_lt r q hq
      edge_lt := by
        intro r i q hq
        rw [addSilent_edgesFrom] at hq
        rw [addSilent_size, addSilent_leaves]
        exact hg.edge_lt r i q hq }
  size_le := by simp
  transitions_eq := by
    ext ⟨r, _ | leaf, q⟩
    · rw [Set.mem_union, mem_transitions_none, mem_transitions_none, addSilent_silentFrom hs]
      by_cases h : r = s <;> simp [h]
    · simp [mem_transitions_some]
  leaves r leaf q step := by simp at step

theorem grows_pushLeaf (hg : g.WellFormed) (l : Leaf) :
    g.Grows P ∅ { g with leaves := g.leaves.push l } where
  wellFormed :=
    { silent_lt := hg.silent_lt
      edge_lt := by
        intro s i t ht
        have := hg.edge_lt s i t ht
        exact ⟨by rw [Array.size_push]; omega, this.2⟩ }
  size_le := le_rfl
  transitions_eq := by
    rw [Set.union_empty]
    ext ⟨s, _ | leaf, t⟩
    · exact Iff.rfl
    · -- the indices in use are below the new one
      refine exists_congr fun i => and_congr_right fun hi => ?_
      have := (hg.edge_lt s i t hi).1
      rw [Array.getElem?_push_lt this, Array.getElem?_eq_getElem this]
  leaves _ _ _ step := step.elim

theorem grows_addEdge {s i t : Nat} {l : Leaf} (hg : g.WellFormed) (hs : s < g.states.size)
    (ht : t < g.states.size) (hi : g.leaves[i]? = some l) (hl : P l) :
    g.Grows P {(s, some l, t)} (g.addEdge s i t) where
  wellFormed :=
    { silent_lt := by
        intro r q hq
        rw [addEdge_silentFrom] at hq
        rw [addEdge_size]
        exact hg.silent_lt r q hq
      edge_lt := by
        intro r j q hq
        rw [addEdge_edgesFrom hs] at hq
        rw [addEdge_size, addEdge_leaves]
        split at hq
        · rcases List.mem_append.1 hq with hq | hq
          · exact hg.edge_lt r j q hq
          · obtain ⟨rfl, rfl⟩ := Prod.mk.inj (List.mem_singleton.1 hq)
            exact ⟨(Array.getElem?_eq_some_iff.1 hi).1, ht⟩
        · exact hg.edge_lt r j q hq }
  size_le := by simp
  transitions_eq := by
    ext ⟨r, _ | leaf, q⟩
    · simp [mem_transitions_none]
    · rw [Set.mem_union, mem_transitions_some, mem_transitions_some, addEdge_edgesFrom hs]
      by_cases h : r = s
      · subst h
        simp only [if_true, List.mem_append, List.mem_singleton, Prod.mk.injEq, addEdge_leaves,
          Set.mem_singleton_iff, true_and, Option.some.injEq]
        constructor
        · rintro ⟨j, hj | ⟨rfl, rfl⟩, hleaf⟩
          · exact .inl ⟨j, hj, hleaf⟩
          · rw [hi, Option.some.injEq] at hleaf
            exact .inr ⟨hleaf.symm, rfl⟩
        · rintro (⟨j, hj, hleaf⟩ | ⟨rfl, rfl⟩)
          · exact ⟨j, .inl hj, hleaf⟩
          · exact ⟨i, .inr ⟨rfl, rfl⟩, hi⟩
      · simp [h]
  leaves r leaf q step := by
    simp only [Set.mem_singleton_iff, Prod.mk.injEq, Option.some.injEq] at step
    rwa [step.2.1]

end Graph

/-! ## Fragments -/

/-- The fragment adds to every graph a part that reads the language, with leaves that satisfy
`P`. -/
def Fragment.Reads (P : Leaf → Prop) (f : Fragment) (L : Language QName) : Prop :=
  ∀ (g : Graph) (start : Nat), g.WellFormed → start < g.states.size → ∃ E : Transitions,
    g.Grows P E (f start g).2 ∧
    E.Spans start g.states.size (f start g).2.states.size ∧
    Within start g.states.size (f start g).2.states.size (f start g).1 ∧
    E.words start {(f start g).1} = L

/-- The graph `g'` is `g` with a part that reads the language from `start` to the state `stop`,
which belonged to `g`. -/
def Graph.LeadsTo (P : Leaf → Prop) (g : Graph) (start stop : Nat) (L : Language QName)
    (g' : Graph) : Prop :=
  ∃ (E : Transitions) (X : Set Nat), g.Grows P (E ∪ exits X stop) g' ∧
    E.Spans start g.states.size g'.states.size ∧
    (∀ x ∈ X, Within start g.states.size g'.states.size x) ∧
    E.words start X = L

/-- The names that a leaf admits, as words. -/
def Leaf.language (l : Leaf) : Language QName :=
  {w : List QName | ∃ name, l.admits name = true ∧ w = [name]}

namespace Fragment

variable {P : Leaf → Prop} {f f' : Fragment} {L L' : Language QName}

theorem reads_skip : Reads P skip 1 := by
  intro g start hg hs
  have idle : Spans ∅ start g.states.size g.states.size := spans_empty
  exact ⟨∅, .refl hg, idle, .inl rfl, words_start idle hs⟩

theorem words_leaf {start stop : Nat} {l : Leaf} (h : start < stop) :
    Transitions.words {(start, some l, stop)} start {stop} = l.language := by
  ext w
  rw [mem_words_singleton]
  constructor
  · intro walk
    cases walk with
    | refl => omega
    | silent step _ => simp at step
    | @read _ t _ leaf name w step admits rest =>
      simp only [Set.mem_singleton_iff, Prod.mk.injEq, Option.some.injEq, true_and] at step
      obtain ⟨rfl, rfl⟩ := step
      refine ⟨name, admits, ?_⟩
      cases rest with
      | refl => rfl
      | silent step _ => simp at step
      | read step _ _ =>
        simp only [Set.mem_singleton_iff, Prod.mk.injEq] at step
        omega
  · rintro ⟨name, admits, rfl⟩
    exact .read rfl admits (.refl stop)

theorem grows_leaf {g : Graph} {start : Nat} {l : Leaf} (hg : g.WellFormed)
    (hs : start < g.states.size) (hl : P l) :
    g.Grows P {(start, some l, g.states.size)} (leaf l start g).2 := by
  have pushed : g.Grows P ∅ _ := Graph.grows_pushLeaf hg l
  have grown := pushed.trans (Graph.grows_addState pushed.wellFormed)
  have done := grown.trans (Graph.grows_addEdge (s := start) (i := g.leaves.size)
    (t := g.states.size) (l := l) grown.wellFormed (by simp; omega) (by simp) (by simp) hl)
  rwa [Set.empty_union, Set.empty_union] at done

theorem spans_leaf (g : Graph) (start : Nat) (l : Leaf) :
    Spans {(start, some l, g.states.size)} start g.states.size
      (leaf l start g).2.states.size := by
  intro s k t step
  simp only [Set.mem_singleton_iff, Prod.mk.injEq] at step
  refine ⟨.inl step.1, step.2.2.ge, ?_⟩
  simp [leaf, step.2.2]

theorem reads_leaf {l : Leaf} (hl : P l) : Reads P (leaf l) l.language := by
  intro g start hg hs
  exact ⟨_, grows_leaf hg hs hl, spans_leaf g start l, .inr (by simp [leaf]), words_leaf hs⟩

theorem andThen_apply (start : Nat) (g : Graph) :
    andThen f f' start g = f' (f start g).1 (f start g).2 := rfl

theorem Reads.andThen (hf : Reads P f L) (hf' : Reads P f' L') :
    Reads P (andThen f f') (L * L') := by
  intro g start hg hs
  obtain ⟨E, grown, spans, within, reads⟩ := hf g start hg hs
  obtain ⟨F, grown', spans', within', reads'⟩ :=
    hf' _ (f start g).1 grown.wellFormed (within.lt hs grown.size_le)
  rw [andThen_apply]
  refine ⟨E ∪ F, grown.trans grown', spans.join spans' within grown.size_le grown'.size_le,
    within.join within' grown.size_le grown'.size_le, ?_⟩
  rw [words_join spans spans' hs within grown.size_le (by simpa using within'), reads, reads']

theorem reads_sequence {fs : List Fragment} {Ls : List (Language QName)}
    (h : List.Forall₂ (Reads P) fs Ls) : Reads P (sequence fs) Ls.prod := by
  induction h with
  | nil => exact reads_skip
  | cons hf _ ih =>
    rw [List.prod_cons]
    exact hf.andThen ih

theorem Reads.times (hf : Reads P f L) (n : Nat) : Reads P (times n f) (L ^ n) := by
  induction n with
  | zero => exact reads_skip
  | succ n ih =>
    rw [pow_succ']
    exact hf.andThen ih

end Fragment

/-! ## Repetitions -/

/-- The words made of at least `min` and at most `max` words of a language. -/
def repetitions (L : Language QName) (min : Nat) (max : Option Nat) : Language QName :=
  {w : List QName | ∃ k, min ≤ k ∧ (∀ n ∈ max, k ≤ n) ∧ w ∈ L ^ k}

theorem mem_repetitions {L : Language QName} {min : Nat} {max : Option Nat} {w : List QName} :
    w ∈ repetitions L min max ↔ ∃ k, min ≤ k ∧ (∀ n ∈ max, k ≤ n) ∧ w ∈ L ^ k := Iff.rfl

theorem repetitions_zero (L : Language QName) : repetitions L 0 (some 0) = 1 := by
  ext w
  simp only [mem_repetitions, Option.mem_def, Option.some.injEq]
  constructor
  · rintro ⟨k, -, hk, hw⟩
    obtain rfl : k = 0 := Nat.le_zero.1 (hk 0 rfl)
    simpa using hw
  · intro hw
    exact ⟨0, le_rfl, by simp, by simpa using hw⟩

theorem repetitions_succ (L : Language QName) (n : Nat) :
    repetitions L 0 (some (n + 1)) = 1 + L * repetitions L 0 (some n) := by
  ext w
  rw [Language.mem_add, Language.mem_mul]
  constructor
  · rintro ⟨k, -, hk, hw⟩
    have hk := hk _ rfl
    cases k with
    | zero => exact .inl (by simpa using hw)
    | succ k =>
      rw [pow_succ', Language.mem_mul] at hw
      obtain ⟨u, hu, v, hv, rfl⟩ := hw
      exact .inr ⟨u, hu, v, ⟨k, Nat.zero_le k, by simpa using hk, hv⟩, rfl⟩
  · rintro (hw | ⟨u, hu, v, ⟨k, -, hk, hv⟩, rfl⟩)
    · exact ⟨0, le_rfl, by simp, by simpa using hw⟩
    · refine ⟨k + 1, Nat.zero_le _, by simpa using hk, ?_⟩
      rw [pow_succ']
      exact Language.append_mem_mul hu hv

theorem repetitions_none (L : Language QName) : repetitions L 0 none = L∗ := by
  ext w
  rw [Language.kstar_eq_iSup_pow, Language.mem_iSup]
  simp [mem_repetitions]

/-- Mandatory repetitions may come first. -/
theorem repetitions_add (L : Language QName) (min : Nat) (max : Option Nat) :
    L ^ min * repetitions L 0 max = repetitions L min (max.map (min + ·)) := by
  ext w
  rw [Language.mem_mul]
  constructor
  · rintro ⟨u, hu, v, ⟨k, -, hk, hv⟩, rfl⟩
    refine ⟨min + k, by omega, ?_, ?_⟩
    · simpa using hk
    · rw [pow_add]
      exact Language.append_mem_mul hu hv
  · rintro ⟨k, hmin, hk, hw⟩
    obtain ⟨j, rfl⟩ := Nat.exists_eq_add_of_le hmin
    rw [pow_add, Language.mem_mul] at hw
    obtain ⟨u, hu, v, hv, rfl⟩ := hw
    exact ⟨u, hu, v, ⟨j, Nat.zero_le j, by simpa using hk, hv⟩, rfl⟩

/-! ## Parts that lead to a given state -/

namespace Fragment

variable {P : Leaf → Prop} {f : Fragment} {L : Language QName}

theorem Reads.upToFrom (hf : Reads P f L) {g : Graph} {start exit : Nat} (n : Nat)
    (hg : g.WellFormed) (hs : start < g.states.size) (he : exit < g.states.size) :
    g.LeadsTo P start exit (repetitions L 0 (some n)) (upToFrom f exit n start g) := by
  induction n generalizing g start with
  | zero =>
    have spans : Spans ∅ start g.states.size g.states.size := spans_empty
    refine ⟨∅, {start} ∪ ∅, ?_, spans_empty, ?_, ?_⟩
    · rw [exits_insert, exits_empty, Set.union_empty, Set.empty_union]
      exact Graph.grows_addSilent hg hs he
    · simp [Within]
    · rw [repetitions_zero, Set.union_empty]
      exact words_start spans hs
  | succ n ih =>
    -- the way out is added first, so that the states of the part lie behind it
    have left := Graph.grows_addSilent (P := P) hg hs he
    obtain ⟨E, grown, spans, within, reads⟩ := hf (g.addSilent start exit) start left.wellFormed
      (by simpa using hs)
    rw [Graph.addSilent_size] at spans within
    have hle : g.states.size ≤ (f start (g.addSilent start exit)).2.states.size := by
      simpa using grown.size_le
    obtain ⟨F, X, grown', spans', within', reads'⟩ := ih grown.wellFormed (within.lt hs hle)
      (by omega)
    have hle' := grown'.size_le
    have spans_join := spans.join spans' within hle hle'
    refine ⟨E ∪ F, {start} ∪ X, ?_, spans_join, ?_, ?_⟩
    · have regroup : E ∪ F ∪ ({(start, none, exit)} ∪ exits X exit) =
          {(start, none, exit)} ∪ E ∪ (F ∪ exits X exit) := by ac_rfl
      rw [exits_insert, regroup]
      exact (left.trans grown).trans grown'
    · rintro x (rfl | hx)
      · exact .inl rfl
      · exact within.join (within' x hx) hle hle'
    · rw [words_union, words_start spans_join hs,
        words_join spans spans' hs within hle within', reads, reads', repetitions_succ]

theorem leadsTo_alternatives {fs : List Fragment} {Ls : List (Language QName)}
    (h : List.Forall₂ (Reads P) fs Ls) {g : Graph} (start stop : Nat) (hg : g.WellFormed)
    (hs : start < g.states.size) (ht : stop < g.states.size) :
    g.LeadsTo P start stop Ls.sum (alternatives start stop fs g) := by
  induction h generalizing g with
  | nil =>
    refine ⟨∅, ∅, ?_, spans_empty, by simp, ?_⟩
    · rw [exits_empty, Set.union_empty]
      exact .refl hg
    · ext w
      simp [mem_words]
  | @cons f L fs Ls hf _ ih =>
    obtain ⟨E, grown, spans, within, reads⟩ := hf g start hg hs
    have hle := grown.size_le
    have left := Graph.grows_addSilent (P := P) (s := (f start g).1) (t := stop) grown.wellFormed
      (within.lt hs hle) (by omega)
    obtain ⟨F, X, grown', spans', within', reads'⟩ := ih left.wellFormed (by simp; omega)
      (by simp; omega)
    have hle' := grown'.size_le
    rw [Graph.addSilent_size] at spans' within' hle'
    refine ⟨E ∪ F, {(f start g).1} ∪ X, ?_,
      (spans.mono le_rfl hle').union (spans'.mono hle le_rfl), ?_, ?_⟩
    · have regroup : E ∪ F ∪ ({((f start g).1, none, stop)} ∪ exits X stop) =
          E ∪ {((f start g).1, none, stop)} ∪ (F ∪ exits X stop) := by ac_rfl
      rw [exits_insert, regroup]
      exact (grown.trans left).trans grown'
    · rintro x (rfl | hx)
      · exact within.mono le_rfl hle'
      · exact (within' x hx).mono hle le_rfl
    · rw [words_beside spans spans' hs hle (by simpa using within) within', reads, reads',
        List.sum_cons]

/-! ## Repetition and choice -/

theorem spans_exits {X : Set Nat} {start stop lo hi : Nat} (hX : ∀ x ∈ X, Within start lo hi x)
    (hlo : lo ≤ stop) (hhi : stop < hi) : (exits X stop).Spans start lo hi := by
  intro s l t step
  obtain ⟨hs, -, rfl⟩ := mem_exits.1 step
  exact ⟨hX s hs, hlo, hhi⟩

/-- A part that leads to a state which was added for it. -/
theorem reads_of_leadsTo {g g' : Graph} {start : Nat} (hg : g.WellFormed)
    (hs : start < g.states.size)
    (h : g.addState.2.LeadsTo P start g.states.size L g') :
    ∃ E : Transitions, g.Grows P E g' ∧ E.Spans start g.states.size g'.states.size ∧
      Within start g.states.size g'.states.size g.states.size ∧
      E.words start {g.states.size} = L := by
  obtain ⟨E, X, grown, spans, within, reads⟩ := h
  have hle := grown.size_le
  rw [Graph.addState_size] at spans within hle
  have total := (Graph.grows_addState hg).trans grown
  rw [Set.empty_union] at total
  refine ⟨E ∪ exits X g.states.size, total, ?_, .inr ⟨le_rfl, by omega⟩, ?_⟩
  · exact (spans.mono (by omega) le_rfl).union
      (spans_exits (fun x hx => (within x hx).mono (by omega) le_rfl) le_rfl (by omega))
  · rw [words_exits spans within (by unfold Within; omega), reads]

theorem Reads.upTo (hf : Reads P f L) (n : Nat) :
    Reads P (upTo n f) (repetitions L 0 (some n)) := by
  intro g start hg hs
  have grown := Graph.grows_addState (P := P) hg
  exact reads_of_leadsTo hg hs
    (hf.upToFrom n grown.wellFormed (by simp; omega) (by simp))

theorem reads_choice {fs : List Fragment} {Ls : List (Language QName)}
    (h : List.Forall₂ (Reads P) fs Ls) : Reads P (choice fs) Ls.sum := by
  intro g start hg hs
  have grown := Graph.grows_addState (P := P) hg
  exact reads_of_leadsTo hg hs
    (leadsTo_alternatives h start _ grown.wellFormed (by simp; omega) (by simp))

theorem reads_anyOrder {fs : List Fragment} {Ls : List (Language QName)}
    (h : List.Forall₂ (Reads P) fs Ls) : Reads P (anyOrder fs) (Ls.sum)∗ := by
  intro g start hg hs
  have added := Graph.grows_addState (P := P) hg
  have entered := Graph.grows_addSilent (P := P) (s := start) (t := g.states.size)
    added.wellFormed (by simp; omega) (by simp)
  obtain ⟨E, X, grown, spans, within, reads⟩ :=
    leadsTo_alternatives h g.states.size g.states.size entered.wellFormed (by simp) (by simp)
  have hle := grown.size_le
  have total := (added.trans entered).trans grown
  rw [Set.empty_union] at total
  rw [Graph.addSilent_size, Graph.addState_size] at spans within hle
  exact ⟨_, total, spans_entered_loop spans within hle, .inr ⟨le_rfl, hle⟩,
    (words_entered_loop spans within hs hle).trans (by rw [reads])⟩

theorem Reads.star (hf : Reads P f L) : Reads P (star f) L∗ := by
  -- to repeat a part is to take it from a choice of one, any number of times
  have := reads_anyOrder (.cons hf .nil)
  rwa [List.sum_singleton] at this

end Fragment

end XmlSchema

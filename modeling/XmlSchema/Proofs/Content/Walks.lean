import Mathlib.Computability.Language
import XmlSchema.Content.Automaton

/-!
# Walks

The steps of an automaton as a set of transitions, and the words that its walks read.  A part of an
automaton has a start and an interval of states of its own; its transitions lead from the start or
from the interval into the interval (`Transitions.Spans`).  The words that lead from the start to
some of the states form a language (`Transitions.words`).  Parts that follow one another, stand
side by side or are repeated are unions of such sets, and this file gives their languages:
`words_join` for parts in a row, `words_beside` for parts side by side, `words_exits` for a part
that is left to a state outside of it, and `words_loop` for a part that is left to its own start.
-/

namespace XmlSchema

open Computability

/-- Steps between states: silent ones, and those that read a name which the leaf admits. -/
abbrev Transitions := Set (Nat × Option Leaf × Nat)

/-- A walk along transitions, and the names it reads. -/
inductive Walk (E : Transitions) : Nat → List QName → Nat → Prop where
  | refl (s : Nat) : Walk E s [] s
  | silent {s t r : Nat} {w : List QName} (step : (s, none, t) ∈ E) (rest : Walk E t w r) :
    Walk E s w r
  | read {s t r : Nat} {leaf : Leaf} {name : QName} {w : List QName}
    (step : (s, some leaf, t) ∈ E) (admits : leaf.admits name = true) (rest : Walk E t w r) :
    Walk E s (name :: w) r

namespace Walk

variable {E F : Transitions} {s t r : Nat} {u v w : List QName}

theorem mono (h : E ⊆ F) (walk : Walk E s w t) : Walk F s w t := by
  induction walk with
  | refl s => exact .refl s
  | silent step _ ih => exact .silent (h step) ih
  | read step admits _ ih => exact .read (h step) admits ih

theorem trans (first : Walk E s u t) (second : Walk E t v r) : Walk E s (u ++ v) r := by
  induction first with
  | refl s => exact second
  | silent step _ ih => exact .silent step (ih second)
  | read step admits _ ih => exact .read step admits (ih second)

theorem single (step : (s, none, t) ∈ E) : Walk E s [] t := .silent step (.refl t)

/-- A walk that starts in `P`, when the transitions from `P` belong to `F` and stay in `P`. -/
theorem restrict {P : Nat → Prop}
    (closed : ∀ s l t, P s → (s, l, t) ∈ E → (s, l, t) ∈ F ∧ P t) (hs : P s)
    (walk : Walk E s w r) : Walk F s w r ∧ P r := by
  induction walk with
  | refl s => exact ⟨.refl s, hs⟩
  | silent step _ ih =>
    obtain ⟨inF, ht⟩ := closed _ _ _ hs step
    exact ⟨.silent inF (ih ht).1, (ih ht).2⟩
  | read step admits _ ih =>
    obtain ⟨inF, ht⟩ := closed _ _ _ hs step
    exact ⟨.read inF admits (ih ht).1, (ih ht).2⟩

/-- A walk that ends in `P`, when the transitions into `P` belong to `F` and come from `P`. -/
theorem corestrict {P : Nat → Prop}
    (closed : ∀ s l t, P t → (s, l, t) ∈ E → (s, l, t) ∈ F ∧ P s) (hr : P r)
    (walk : Walk E s w r) : Walk F s w r ∧ P s := by
  induction walk with
  | refl s => exact ⟨.refl s, hr⟩
  | silent step _ ih =>
    obtain ⟨inF, hs⟩ := closed _ _ _ (ih hr).2 step
    exact ⟨.silent inF (ih hr).1, hs⟩
  | read step admits _ ih =>
    obtain ⟨inF, hs⟩ := closed _ _ _ (ih hr).2 step
    exact ⟨.read inF admits (ih hr).1, hs⟩

/-- No walk leads from elsewhere to a state that no transition leads to. -/
theorem eq_of_no_step_into (none_into : ∀ s l, (s, l, r) ∉ E) (walk : Walk E s w r) :
    s = r ∧ w = [] := by
  have closed : ∀ s l t, t = r → (s, l, t) ∈ E → (s, l, t) ∈ (∅ : Transitions) ∧ s = r := by
    rintro s l t rfl step
    exact absurd step (none_into s l)
  obtain ⟨idle, hs⟩ := walk.corestrict closed rfl
  cases idle with
  | refl => exact ⟨hs, rfl⟩
  | silent step _ => exact step.elim
  | read step _ _ => exact step.elim

/-- A walk in two parts: it crosses from the states `P` of the first part at most once, since the
second part leads out of `P` and the first does not lead back. -/
theorem crossing {P : Nat → Prop} (stay : ∀ s l t, (s, l, t) ∈ E → P s ∧ P t)
    (leave : ∀ s l t, (s, l, t) ∈ F → ¬ P t) (hs : P s) (walk : Walk (E ∪ F) s w r) :
    (P r ∧ Walk E s w r) ∨ ∃ m u v, P m ∧ w = u ++ v ∧ Walk E s u m ∧ Walk F m v r := by
  have behind {t : Nat} {w : List QName} (ht : ¬ P t) (walk : Walk (E ∪ F) t w r) :
      Walk F t w r := by
    refine (walk.restrict (P := fun s => ¬ P s) ?_ ht).1
    rintro s l t hs (step | step)
    · exact absurd (stay _ _ _ step).1 hs
    · exact ⟨step, leave _ _ _ step⟩
  induction walk with
  | refl s => exact .inl ⟨hs, .refl s⟩
  | @silent s t r w step rest ih =>
    rcases step with step | step
    · rcases ih (stay _ _ _ step).2 behind with ⟨hr, walk⟩ | ⟨m, u, v, hm, rfl, first, second⟩
      · exact .inl ⟨hr, .silent step walk⟩
      · exact .inr ⟨m, u, v, hm, rfl, .silent step first, second⟩
    · exact .inr ⟨s, [], w, hs, rfl, .refl s, .silent step (behind (leave _ _ _ step) rest)⟩
  | @read s t r leaf name w step admits rest ih =>
    rcases step with step | step
    · rcases ih (stay _ _ _ step).2 behind with ⟨hr, walk⟩ | ⟨m, u, v, hm, rfl, first, second⟩
      · exact .inl ⟨hr, .read step admits walk⟩
      · exact .inr ⟨m, name :: u, v, hm, rfl, .read step admits first, second⟩
    · exact .inr ⟨s, [], name :: w, hs, rfl, .refl s,
        .read step admits (behind (leave _ _ _ step) rest)⟩

end Walk

/-! ## Parts of an automaton -/

/-- The states of a part that starts in `start` and owns the states from `lo` to below `hi`. -/
def Within (start lo hi s : Nat) : Prop := s = start ∨ lo ≤ s ∧ s < hi

theorem Within.lt {start lo hi s : Nat} (h : Within start lo hi s) (hs : start < lo)
    (hle : lo ≤ hi) : s < hi := by
  unfold Within at h
  omega

theorem Within.mono {start lo hi lo' hi' s : Nat} (h : Within start lo hi s) (hlo : lo' ≤ lo)
    (hhi : hi ≤ hi') : Within start lo' hi' s := by
  unfold Within at *
  omega

/-- The states of a part that follows another belong to both together. -/
theorem Within.join {start middle lo mid hi s : Nat} (hm : Within start lo mid middle)
    (h : Within middle mid hi s) (hle : lo ≤ mid) (hle' : mid ≤ hi) : Within start lo hi s := by
  unfold Within at *
  omega

namespace Transitions

/-- The transitions lead from the start or the interval into the interval. -/
def Spans (E : Transitions) (start lo hi : Nat) : Prop :=
  ∀ s l t, (s, l, t) ∈ E → Within start lo hi s ∧ lo ≤ t ∧ t < hi

/-- Silent steps from several states to one. -/
def exits (X : Set Nat) (stop : Nat) : Transitions := {e | e.1 ∈ X ∧ e.2 = (none, stop)}

@[simp] theorem mem_exits {X : Set Nat} {stop s t : Nat} {l : Option Leaf} :
    (s, l, t) ∈ exits X stop ↔ s ∈ X ∧ l = none ∧ t = stop := by
  simp [exits]

@[simp] theorem exits_empty (stop : Nat) : exits ∅ stop = ∅ := by
  ext ⟨s, l, t⟩
  simp

/-- One more state from which to leave. -/
theorem exits_insert (s stop : Nat) (X : Set Nat) :
    exits ({s} ∪ X) stop = {(s, none, stop)} ∪ exits X stop := by
  ext ⟨r, l, t⟩
  simp only [mem_exits, Set.mem_union, Set.mem_singleton_iff, Prod.mk.injEq]
  tauto

variable {E F : Transitions} {start middle lo mid hi : Nat}

theorem spans_empty : Spans ∅ start lo hi := fun _ _ _ step => step.elim

theorem Spans.mono {lo' hi' : Nat} (h : E.Spans start lo hi) (hlo : lo' ≤ lo) (hhi : hi ≤ hi') :
    E.Spans start lo' hi' := by
  intro s l t step
  obtain ⟨hs, ht⟩ := h s l t step
  exact ⟨hs.mono hlo hhi, by omega⟩

theorem Spans.union (hE : E.Spans start lo hi) (hF : F.Spans start lo hi) :
    Spans (E ∪ F) start lo hi := by
  rintro s l t (step | step)
  · exact hE s l t step
  · exact hF s l t step

/-- Two parts in a row are a part. -/
theorem Spans.join (hE : E.Spans start lo mid) (hF : F.Spans middle mid hi)
    (hm : Within start lo mid middle) (hle : lo ≤ mid) (hle' : mid ≤ hi) :
    Spans (E ∪ F) start lo hi := by
  rintro s l t (step | step)
  · obtain ⟨hs, ht⟩ := hE s l t step
    exact ⟨hs.mono le_rfl hle', by omega⟩
  · obtain ⟨hs, ht⟩ := hF s l t step
    exact ⟨hm.join hs hle hle', by omega⟩

theorem Spans.not_into_start (h : E.Spans start lo hi) (hlt : start < lo) (s : Nat)
    (l : Option Leaf) : (s, l, start) ∉ E := by
  intro step
  have := (h s l start step).2
  omega

end Transitions

theorem append_mem_kstar {L : Language QName} {u v : List QName} (hu : u ∈ L) (hv : v ∈ L∗) :
    u ++ v ∈ L∗ := by
  have le : L * L∗ ≤ L∗ := mul_kstar_le_kstar
  exact le (Language.append_mem_mul hu hv)

namespace Transitions

/-- The words that lead from a state to one of the states `X`. -/
def words (E : Transitions) (start : Nat) (X : Set Nat) : Language QName :=
  {w : List QName | ∃ x ∈ X, Walk E start w x}

variable {E F : Transitions} {start middle stop lo mid lo' hi : Nat} {X Y : Set Nat}
  {w : List QName}

theorem mem_words : w ∈ E.words start X ↔ ∃ x ∈ X, Walk E start w x := Iff.rfl

theorem mem_words_singleton : w ∈ E.words start {stop} ↔ Walk E start w stop := by
  simp [mem_words]

theorem words_union : E.words start (X ∪ Y) = E.words start X + E.words start Y := by
  ext w
  simp only [mem_words, Language.mem_add, Set.mem_union]
  constructor
  · rintro ⟨x, hx | hx, walk⟩
    · exact .inl ⟨x, hx, walk⟩
    · exact .inr ⟨x, hx, walk⟩
  · rintro (⟨x, hx, walk⟩ | ⟨x, hx, walk⟩)
    · exact ⟨x, .inl hx, walk⟩
    · exact ⟨x, .inr hx, walk⟩

/-- A part leads back to its start by the empty word only. -/
theorem words_start (hE : E.Spans start lo hi) (hlt : start < lo) : E.words start {start} = 1 := by
  ext w
  rw [mem_words_singleton, Language.mem_one]
  constructor
  · intro walk
    exact (walk.eq_of_no_step_into (hE.not_into_start hlt)).2
  · rintro rfl
    exact .refl start

/-- Two parts in a row. -/
theorem words_join (hE : E.Spans start lo mid) (hF : F.Spans middle mid hi) (hlt : start < lo)
    (hm : Within start lo mid middle) (hle : lo ≤ mid) (hX : ∀ x ∈ X, Within middle mid hi x) :
    words (E ∪ F) start X = E.words start {middle} * F.words middle X := by
  ext w
  rw [Language.mem_mul]
  constructor
  · rintro ⟨x, hx, walk⟩
    have stay : ∀ s l t, (s, l, t) ∈ E → Within start lo mid s ∧ Within start lo mid t :=
      fun s l t step => ⟨(hE s l t step).1, .inr (hE s l t step).2⟩
    have leave : ∀ s l t, (s, l, t) ∈ F → ¬ Within start lo mid t := by
      intro s l t step ht
      have := (hF s l t step).2
      unfold Within at *
      omega
    -- a state of both parts can only be the one where they meet
    have meet {s : Nat} (hs : Within start lo mid s) (hs' : Within middle mid hi s) :
        s = middle := by
      unfold Within at *
      omega
    rcases walk.crossing stay leave (.inl rfl) with ⟨hr, first⟩ | ⟨m, u, v, hm', rfl, first, second⟩
    · obtain rfl := meet hr (hX x hx)
      exact ⟨w, mem_words_singleton.2 first, [], ⟨x, hx, .refl x⟩, by simp⟩
    · have hmiddle : m = middle := by
        cases second with
        | refl => exact meet hm' (hX _ hx)
        | silent step _ => exact meet hm' (hF _ _ _ step).1
        | read step _ _ => exact meet hm' (hF _ _ _ step).1
      subst hmiddle
      exact ⟨u, mem_words_singleton.2 first, v, ⟨x, hx, second⟩, rfl⟩
  · rintro ⟨u, first, v, ⟨x, hx, second⟩, rfl⟩
    exact ⟨x, hx, ((mem_words_singleton.1 first).mono Set.subset_union_left).trans
      (second.mono Set.subset_union_right)⟩

/-- Of two parts side by side, a walk to a state of the first stays in the first. -/
theorem words_beside_left (hE : E.Spans start lo mid) (hF : F.Spans start lo' hi)
    (hlt : start < lo') (disjoint : mid ≤ lo' ∨ hi ≤ lo) (hX : ∀ x ∈ X, Within start lo mid x) :
    words (E ∪ F) start X = E.words start X := by
  ext w
  constructor
  · rintro ⟨x, hx, walk⟩
    refine ⟨x, hx, (walk.corestrict (P := Within start lo mid) ?_ (hX x hx)).1⟩
    rintro s l t ht (step | step)
    · exact ⟨step, (hE s l t step).1⟩
    · have := (hF s l t step).2
      unfold Within at ht
      omega
  · rintro ⟨x, hx, walk⟩
    exact ⟨x, hx, walk.mono Set.subset_union_left⟩

/-- Two parts side by side. -/
theorem words_beside (hE : E.Spans start lo mid) (hF : F.Spans start mid hi) (hlt : start < lo)
    (hle : lo ≤ mid) (hX : ∀ x ∈ X, Within start lo mid x)
    (hY : ∀ y ∈ Y, Within start mid hi y) :
    words (E ∪ F) start (X ∪ Y) = E.words start X + F.words start Y := by
  rw [words_union, words_beside_left hE hF (by omega) (.inl le_rfl) hX, Set.union_comm E F,
    words_beside_left hF hE hlt (.inr le_rfl) hY]

/-- A part that is left to a state outside of it. -/
theorem words_exits (hE : E.Spans start lo hi) (hX : ∀ x ∈ X, Within start lo hi x)
    (hstop : ¬ Within start lo hi stop) :
    words (E ∪ exits X stop) start {stop} = E.words start X := by
  ext w
  rw [mem_words_singleton]
  constructor
  · intro walk
    have stay : ∀ s l t, (s, l, t) ∈ E → Within start lo hi s ∧ Within start lo hi t :=
      fun s l t step => ⟨(hE s l t step).1, .inr (hE s l t step).2⟩
    have leave : ∀ s l t, (s, l, t) ∈ exits X stop → ¬ Within start lo hi t := by
      intro s l t step
      rw [mem_exits] at step
      rwa [step.2.2]
    rcases walk.crossing stay leave (.inl rfl) with ⟨hr, -⟩ | ⟨m, u, v, hm, rfl, first, second⟩
    · exact absurd hr hstop
    · cases second with
      | refl => exact absurd hm hstop
      | silent step rest =>
        obtain ⟨hmX, -, rfl⟩ := mem_exits.1 step
        -- nothing leads on from the state outside
        cases rest with
        | refl => exact ⟨m, hmX, by simpa using first⟩
        | silent step _ => exact absurd (hX _ (mem_exits.1 step).1) hstop
        | read step _ _ => simp at step
      | read step _ _ => simp at step
  · rintro ⟨x, hx, walk⟩
    have last : Walk (E ∪ exits X stop) x [] stop := .single (.inr (by simp [hx]))
    simpa using (walk.mono Set.subset_union_left).trans last

/-- By its first return to the start, a walk splits off one word of the part. -/
theorem exists_round (hE : E.Spans start lo hi) (hlt : start < lo) {s r : Nat}
    (walk : Walk (E ∪ exits X start) s w r) (hr : r = start) :
    (s = start ∧ w = []) ∨
      ∃ x ∈ X, ∃ u v, w = u ++ v ∧ Walk E s u x ∧ v ∈ (E.words start X)∗ := by
  induction walk with
  | refl s => exact .inl ⟨hr, rfl⟩
  | @silent s t r w step rest ih =>
    rcases step with step | step
    · rcases ih hr with ⟨rfl, -⟩ | ⟨x, hx, u, v, rfl, first, rest⟩
      · exact absurd step (hE.not_into_start hlt s none)
      · exact .inr ⟨x, hx, u, v, rfl, .silent step first, rest⟩
    · obtain ⟨hs, -, rfl⟩ := mem_exits.1 step
      refine .inr ⟨s, hs, [], w, rfl, .refl s, ?_⟩
      rcases ih hr with ⟨-, rfl⟩ | ⟨x, hx, u, v, rfl, first, rest⟩
      · exact Language.nil_mem_kstar _
      · exact append_mem_kstar ⟨x, hx, first⟩ rest
  | @read s t r leaf name w step admits rest ih =>
    rcases step with step | step
    · rcases ih hr with ⟨rfl, -⟩ | ⟨x, hx, u, v, rfl, first, rest⟩
      · exact absurd step (hE.not_into_start hlt s _)
      · exact .inr ⟨x, hx, name :: u, v, rfl, .read step admits first, rest⟩
    · simp at step

/-- A part that is left to its own start. -/
theorem words_loop (hE : E.Spans start lo hi) (hlt : start < lo) :
    words (E ∪ exits X start) start {start} = (E.words start X)∗ := by
  ext w
  rw [mem_words_singleton]
  constructor
  · intro walk
    rcases exists_round hE hlt walk rfl with ⟨-, rfl⟩ | ⟨x, hx, u, v, rfl, first, rest⟩
    · exact Language.nil_mem_kstar _
    · exact append_mem_kstar ⟨x, hx, first⟩ rest
  · rintro ⟨words, rfl, hwords⟩
    induction words with
    | nil => exact .refl start
    | cons u words ih =>
      obtain ⟨x, hx, walk⟩ := hwords u (by simp)
      have back : Walk (E ∪ exits X start) x [] start := .single (.inr (by simp [hx]))
      have rest := ih fun y hy => hwords y (by simp [hy])
      simpa using ((walk.mono Set.subset_union_left).trans back).trans rest

/-- A silent step that leads to transitions elsewhere. -/
theorem words_entry {head : Nat} (hhead : head ≠ start)
    (hF : ∀ s l t, (s, l, t) ∈ F → s ≠ start ∧ t ≠ start) (hX : start ∉ X) :
    words ({(start, none, head)} ∪ F) start X = F.words head X := by
  have behind {s r : Nat} {w : List QName} (hs : s ≠ start)
      (walk : Walk ({(start, none, head)} ∪ F) s w r) : Walk F s w r := by
    refine (walk.restrict (P := (· ≠ start)) ?_ hs).1
    rintro s l t hs (step | step)
    · simp only [Set.mem_singleton_iff, Prod.mk.injEq] at step
      exact absurd step.1 hs
    · exact ⟨step, (hF s l t step).2⟩
  ext w
  constructor
  · rintro ⟨x, hx, walk⟩
    cases walk with
    | refl => exact absurd hx hX
    | silent step rest =>
      rcases step with step | step
      · simp only [Set.mem_singleton_iff, Prod.mk.injEq, true_and] at step
        subst step
        exact ⟨x, hx, behind hhead rest⟩
      · exact absurd rfl (hF _ _ _ step).1
    | read step _ _ =>
      rcases step with step | step
      · simp at step
      · exact absurd rfl (hF _ _ _ step).1
  · rintro ⟨x, hx, walk⟩
    exact ⟨x, hx, .silent (.inl rfl) (walk.mono Set.subset_union_right)⟩

/-! ## Loops behind a silent step -/

section EnteredLoop

variable {head : Nat} (hE : E.Spans head (head + 1) hi)
  (hX : ∀ x ∈ X, Within head (head + 1) hi x) (hs : start < head) (hhi : head < hi)

include hE hX hhi

theorem mem_loop_bounds {s t : Nat} {l : Option Leaf} (step : (s, l, t) ∈ E ∪ exits X head) :
    (head ≤ s ∧ s < hi) ∧ head ≤ t ∧ t < hi := by
  have bounds {s : Nat} (h : Within head (head + 1) hi s) : head ≤ s ∧ s < hi := by
    unfold Within at h
    omega
  rcases step with step | step
  · obtain ⟨hs, ht⟩ := hE s l t step
    exact ⟨bounds hs, by omega, ht.2⟩
  · obtain ⟨hs, -, rfl⟩ := mem_exits.1 step
    exact ⟨bounds (hX s hs), le_rfl, hhi⟩

theorem spans_entered_loop :
    Spans ({(start, none, head)} ∪ (E ∪ exits X head)) start head hi := by
  rintro s l t (step | step)
  · simp only [Set.mem_singleton_iff, Prod.mk.injEq] at step
    exact ⟨.inl step.1, by omega, by omega⟩
  · obtain ⟨hs, ht⟩ := mem_loop_bounds hE hX hhi step
    exact ⟨.inr hs, ht⟩

include hs

theorem words_entered_loop :
    words ({(start, none, head)} ∪ (E ∪ exits X head)) start {head} = (E.words head X)∗ := by
  have apart : ∀ s l t, (s, l, t) ∈ E ∪ exits X head → s ≠ start ∧ t ≠ start := by
    intro s l t step
    have := mem_loop_bounds hE hX hhi step
    omega
  rw [words_entry (by omega) apart (by simp; omega), words_loop hE (by omega)]

end EnteredLoop

end Transitions

end XmlSchema

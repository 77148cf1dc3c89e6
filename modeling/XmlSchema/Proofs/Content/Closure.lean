import Mathlib.Algebra.BigOperators.Group.Finset.Basic
import Mathlib.Algebra.Order.BigOperators.Group.Finset
import Mathlib.Logic.Relation
import XmlSchema.Proofs.Content.Fragments

/-!
# Closures

`Graph.closure` marks states in depth-first order, with as much fuel as there are seeds and silent
steps.  `Graph.mem_closure` says that in a well-formed graph this is enough: the closure holds
exactly the states that silent steps lead to from the seeds.  The marks are right in one direction
because every state on the stack is reachable (`markFrom_sound`), and in the other because the
successors of a marked state are marked or on the stack (`ClosedUpTo`).
-/

namespace XmlSchema.Graph

variable {g : Graph}

/-- Silent steps lead from one state to the other. -/
def SilentReach (g : Graph) : Nat → Nat → Prop :=
  Relation.ReflTransGen fun s t => t ∈ g.silentFrom s

/-- Whether a state carries a mark. -/
def Marked (marked : Array Bool) (s : Nat) : Prop := marked[s]? = some true

theorem marked_setIfInBounds {marked : Array Bool} {s t : Nat} (hs : s < marked.size) :
    Marked (marked.setIfInBounds s true) t ↔ t = s ∨ Marked marked t := by
  unfold Marked
  rw [Array.getElem?_setIfInBounds]
  by_cases h : s = t
  · simp [h, h ▸ hs]
  · simp [h, Ne.symm h]

theorem lt_size_of_getElem?_false {marked : Array Bool} {s : Nat} (h : marked[s]? = some false) :
    s < marked.size := (Array.getElem?_eq_some_iff.1 h).1

/-- A state that is marked was marked before or can be reached from the stack. -/
theorem markFrom_sound (fuel : Nat) (stack : List Nat) (marked : Array Bool) (t : Nat)
    (ht : Marked (g.markFrom fuel stack marked) t) :
    Marked marked t ∨ ∃ s ∈ stack, g.SilentReach s t := by
  fun_induction markFrom g fuel stack marked with
  | case1 | case2 => exact .inl ht
  | case3 fuel s stack marked hs ih =>
    rcases ih ht with ht | ⟨r, hr, reach⟩
    · rcases (marked_setIfInBounds (lt_size_of_getElem?_false hs)).1 ht with rfl | ht
      · exact .inr ⟨t, by simp, .refl⟩
      · exact .inl ht
    · rcases List.mem_append.1 hr with hr | hr
      · exact .inr ⟨s, by simp, .head hr reach⟩
      · exact .inr ⟨r, by simp [hr], reach⟩
  | case4 fuel s stack marked hs ih =>
    rcases ih ht with ht | ⟨r, hr, reach⟩
    · exact .inl ht
    · exact .inr ⟨r, by simp [hr], reach⟩

/-- The successors of marked states are marked or on the stack. -/
def ClosedUpTo (g : Graph) (stack : List Nat) (marked : Array Bool) : Prop :=
  ∀ s t, Marked marked s → t ∈ g.silentFrom s → Marked marked t ∨ t ∈ stack

/-- Marking the state on top of the stack and putting its successors there keeps the marks
closed. -/
theorem ClosedUpTo.mark {s : Nat} {stack : List Nat} {marked : Array Bool}
    (closed : g.ClosedUpTo (s :: stack) marked) (hs : s < marked.size) :
    g.ClosedUpTo (g.silentFrom s ++ stack) (marked.setIfInBounds s true) := by
  intro r t hr ht
  rw [marked_setIfInBounds hs, List.mem_append]
  rcases (marked_setIfInBounds hs).1 hr with rfl | hr
  · exact .inr (.inl ht)
  · rcases closed r t hr ht with ht | ht
    · exact .inl (.inr ht)
    · rcases List.mem_cons.1 ht with rfl | ht
      · exact .inl (.inl rfl)
      · exact .inr (.inr ht)

/-- A state that is marked already can be taken off the stack. -/
theorem ClosedUpTo.pop {s : Nat} {stack : List Nat} {marked : Array Bool}
    (closed : g.ClosedUpTo (s :: stack) marked) (hs : Marked marked s) :
    g.ClosedUpTo stack marked := by
  intro r t hr ht
  rcases closed r t hr ht with ht | ht
  · exact .inl ht
  · rcases List.mem_cons.1 ht with rfl | ht
    · exact .inl hs
    · exact .inr ht

/-- The silent steps from states without mark. -/
def openSteps (g : Graph) (marked : Array Bool) : Nat :=
  ∑ s ∈ Finset.range g.states.size with marked[s]? = some false, (g.silentFrom s).length

/-- Marking a state takes its steps off the open ones. -/
theorem openSteps_eq_add {marked : Array Bool} {s : Nat} (hsize : marked.size = g.states.size)
    (hs : marked[s]? = some false) :
    g.openSteps marked =
      (g.silentFrom s).length + g.openSteps (marked.setIfInBounds s true) := by
  have hlt : s < marked.size := lt_size_of_getElem?_false hs
  have remaining : (Finset.range g.states.size).filter
        (fun t => (marked.setIfInBounds s true)[t]? = some false) =
      ((Finset.range g.states.size).filter fun t => marked[t]? = some false).erase s := by
    ext t
    rw [Finset.mem_erase, Finset.mem_filter, Finset.mem_filter, Array.getElem?_setIfInBounds]
    by_cases h : s = t
    · simp [h, h ▸ hlt]
    · simp [h, Ne.symm h]
  have mem : s ∈ (Finset.range g.states.size).filter fun t => marked[t]? = some false :=
    Finset.mem_filter.2 ⟨Finset.mem_range.2 (hsize ▸ hlt), hs⟩
  unfold openSteps
  rw [remaining]
  exact (Finset.add_sum_erase _ (fun t => (g.silentFrom t).length) mem).symm

theorem openSteps_replicate :
    g.openSteps (Array.replicate g.states.size false) = g.silentCount := by
  have count (states : List State) : states.foldl (fun n s => n + s.silent.length) 0 =
      ∑ i ∈ Finset.range states.length, ((states[i]?.map State.silent).getD []).length := by
    induction states using List.reverseRecOn with
    | nil => simp
    | append_singleton states s ih =>
      have before : ∑ i ∈ Finset.range states.length,
            (((states ++ [s])[i]?.map State.silent).getD []).length =
          ∑ i ∈ Finset.range states.length, ((states[i]?.map State.silent).getD []).length := by
        refine Finset.sum_congr rfl fun i hi => ?_
        rw [List.getElem?_append_left (Finset.mem_range.1 hi)]
      rw [List.foldl_append, ih, List.length_append, List.length_singleton, Finset.sum_range_succ,
        before]
      simp
  have all_open : (Finset.range g.states.size).filter
        (fun s => (Array.replicate g.states.size false)[s]? = some false) =
      Finset.range g.states.size := by
    refine Finset.filter_true_of_mem fun s hs => ?_
    simp [Finset.mem_range.1 hs]
  unfold openSteps silentCount silentFrom
  rw [all_open, ← Array.foldl_toList, count, Array.length_toList]
  simp

theorem WellFormed.lt_size_of_mem_push (hg : g.WellFormed) {s : Nat} {stack : List Nat}
    (hstack : ∀ t ∈ s :: stack, t < g.states.size) :
    ∀ t ∈ g.silentFrom s ++ stack, t < g.states.size := by
  intro t ht
  rcases List.mem_append.1 ht with ht | ht
  · exact hg.silent_lt s t ht
  · exact hstack t (by simp [ht])

/-- The successors that go on the stack are paid for by the steps that are no longer open. -/
theorem fuel_push {marked : Array Bool} {s fuel : Nat} {stack : List Nat}
    (hsize : marked.size = g.states.size) (hs : marked[s]? = some false)
    (hfuel : (s :: stack).length + g.openSteps marked ≤ fuel + 1) :
    (g.silentFrom s ++ stack).length + g.openSteps (marked.setIfInBounds s true) ≤ fuel := by
  rw [openSteps_eq_add hsize hs, List.length_cons] at hfuel
  rw [List.length_append]
  omega

/-- With fuel for the stack and the open steps, marking comes to its end: what is on the stack is
marked, and nothing leads on. -/
theorem markFrom_complete (hg : g.WellFormed) (fuel : Nat) (stack : List Nat)
    (marked : Array Bool) (hsize : marked.size = g.states.size)
    (hstack : ∀ s ∈ stack, s < g.states.size) (hfuel : stack.length + g.openSteps marked ≤ fuel)
    (closed : g.ClosedUpTo stack marked) :
    (∀ s, Marked marked s ∨ s ∈ stack → Marked (g.markFrom fuel stack marked) s) ∧
      g.ClosedUpTo [] (g.markFrom fuel stack marked) := by
  fun_induction markFrom g fuel stack marked with
  | case1 stack marked =>
    obtain rfl : stack = [] := List.length_eq_zero_iff.1 (by omega)
    exact ⟨by simp, closed⟩
  | case2 => exact ⟨by simp, closed⟩
  | case3 fuel s stack marked hs ih =>
    have hlt : s < marked.size := lt_size_of_getElem?_false hs
    obtain ⟨kept, done⟩ := ih (by simpa using hsize) (hg.lt_size_of_mem_push hstack)
      (fuel_push hsize hs hfuel) (closed.mark hlt)
    refine ⟨fun t ht => kept t ?_, done⟩
    rw [marked_setIfInBounds hlt, List.mem_append]
    rcases ht with ht | ht
    · exact .inl (.inr ht)
    · rcases List.mem_cons.1 ht with rfl | ht
      · exact .inl (.inl rfl)
      · exact .inr (.inr ht)
  | case4 fuel s stack marked hs ih =>
    have hmarked : Marked marked s := by
      have hlt : s < marked.size := by rw [hsize]; exact hstack s (by simp)
      unfold Marked
      rw [Array.getElem?_eq_getElem hlt] at hs ⊢
      simpa using hs
    rw [List.length_cons] at hfuel
    obtain ⟨kept, done⟩ := ih hsize (fun t ht => hstack t (by simp [ht])) (by omega)
      (closed.pop hmarked)
    refine ⟨fun t ht => kept t ?_, done⟩
    rcases ht with ht | ht
    · exact .inl ht
    · rcases List.mem_cons.1 ht with rfl | ht
      · exact .inl hmarked
      · exact .inr ht

theorem not_marked_replicate (n s : Nat) : ¬ Marked (Array.replicate n false) s := by
  unfold Marked
  rw [Array.getElem?_replicate]
  split <;> simp

theorem lt_size_of_mem_closure {seeds : List Nat} {s : Nat} (hs : s ∈ g.closure seeds) :
    s < g.states.size :=
  List.mem_range.1 (List.mem_filter.1 hs).1

/-- The closure of states holds exactly the states that silent steps lead to. -/
theorem mem_closure (hg : g.WellFormed) {seeds : List Nat}
    (hseeds : ∀ s ∈ seeds, s < g.states.size) {t : Nat} :
    t ∈ g.closure seeds ↔ ∃ s ∈ seeds, g.SilentReach s t := by
  have reached_lt {s t : Nat} (hs : s < g.states.size) (reach : g.SilentReach s t) :
      t < g.states.size := by
    induction reach with
    | refl => exact hs
    | tail _ step _ => exact hg.silent_lt _ _ step
  simp only [closure, List.mem_filter, List.mem_range, decide_eq_true_eq]
  constructor
  · rintro ⟨-, ht⟩
    rcases markFrom_sound _ _ _ t ht with ht | reached
    · exact absurd ht (not_marked_replicate _ t)
    · exact reached
  · rintro ⟨s, hs, reach⟩
    refine ⟨reached_lt (hseeds s hs) reach, ?_⟩
    obtain ⟨kept, done⟩ := markFrom_complete hg (seeds.length + g.silentCount) seeds
      (Array.replicate g.states.size false) (by simp) hseeds (by rw [openSteps_replicate])
      (fun s _ hs => absurd hs (not_marked_replicate _ s))
    induction reach with
    | refl => exact kept s (.inr hs)
    | tail _ step ih => exact (done _ _ ih step).resolve_right (by simp)

end XmlSchema.Graph

import XmlSchema.Proofs.Content.Liveness

/-!
# What a matcher expects

The list in a message about an unexpected child agrees with what the matcher would take
(`ContentMatcher.expected_agrees`): each child that matches is in the list under the description of
its leaf, and each entry describes a leaf that is on offer (`ContentMatcher.Offers`).  An element on
offer matches.  If no choice is empty, the list of a matcher that still waits for something is not
empty, since every state of its automaton leads to the accepting one.
-/

namespace XmlSchema

namespace ContentMatcher

/-! ## Calls -/

/-- The state behind several children, whether they match or not. -/
def calls (m : ContentMatcher) (names : List QName) : ContentMatcher :=
  names.foldl (fun m name => (m.step name).2) m

theorem calls_cons (m : ContentMatcher) (name : QName) (names : List QName) :
    m.calls (name :: names) = (m.step name).2.calls names := rfl

theorem takeMember_snd_of_none {name : QName} {members : List (Leaf × Bool)} {seen : List Bool}
    (h : (takeMember name members seen).1 = none) : (takeMember name members seen).2 = seen := by
  fun_induction takeMember name members seen with
  | case1 => simp at h
  | case2 leaf required members flag rest other taken rest' heq ih =>
    rw [heq] at ih
    exact congrArg (flag :: ·) (ih h)
  | case3 => rfl

/-- A child that does not match leaves the state as it is. -/
theorem step_snd_of_none {m : ContentMatcher} {name : QName} (h : (m.step name).1 = none) :
    (m.step name).2 = m := by
  cases m with
  | automaton a current =>
    unfold step at h ⊢
    dsimp only at h ⊢
    cases chosen : candidates a current name with
    | nil => rfl
    | cons c rest => simp [chosen] at h
  | all model seen => exact congrArg (all model) (takeMember_snd_of_none h)

/-- What one step preserves holds behind all calls. -/
theorem calls_induction {motive : ContentMatcher → Prop}
    (step : ∀ m name leaf next, motive m → m.step name = (some leaf, next) → motive next)
    {m : ContentMatcher} (start : motive m) (names : List QName) : motive (m.calls names) := by
  induction names generalizing m with
  | nil => exact start
  | cons name names ih =>
    rw [calls_cons]
    apply ih
    cases taken : (m.step name).1 with
    | none => rwa [step_snd_of_none taken]
    | some leaf => exact step m name leaf _ start (Prod.ext taken rfl)

/-! ## Leaves on offer -/

/-- The leaf is on offer: it labels a step from a current state, or is a member that has not
occurred. -/
inductive Offers : ContentMatcher → Leaf → Prop
  | edge {a : Automaton} {current : List Nat} {s t : Nat} {leaf : Leaf} (state : s ∈ current)
    (step : (s, some leaf, t) ∈ a.transitions) : Offers (.automaton a current) leaf
  | member {model : AllModel} {seen : List Bool} {leaf : Leaf} {required : Bool}
    (unseen : ((leaf, required), false) ∈ model.members.zip seen) : Offers (.all model seen) leaf

theorem mem_available {m : ContentMatcher} {leaf : Leaf} : leaf ∈ m.available ↔ m.Offers leaf := by
  cases m with
  | automaton a current =>
    simp only [available, List.mem_filterMap, List.mem_mergeSort, List.mem_map, List.mem_flatMap,
      Prod.exists, exists_and_right, exists_eq_right]
    constructor
    · rintro ⟨i, ⟨t, s, state, edge⟩, hleaf⟩
      exact .edge state ⟨i, edge, hleaf⟩
    · rintro (⟨state, i, edge, hleaf⟩ | _)
      exact ⟨i, ⟨_, _, state, edge⟩, hleaf⟩
  | all model seen =>
    simp only [available, List.mem_filterMap, Prod.exists]
    constructor
    · rintro ⟨leaf', required, flag, hmem, hleaf⟩
      cases flag with
      | true => simp at hleaf
      | false =>
        obtain rfl : leaf' = leaf := by simpa using hleaf
        exact .member hmem
    · rintro (_ | ⟨unseen⟩)
      exact ⟨leaf, _, false, unseen, by simp⟩

theorem mem_takeMember {name : QName} {members : List (Leaf × Bool)} {seen : List Bool}
    {leaf : Leaf} (h : (takeMember name members seen).1 = some leaf) :
    leaf.admits name = true ∧ ∃ required, ((leaf, required), false) ∈ members.zip seen := by
  fun_induction takeMember name members seen with
  | case1 leaf' required members flag rest first =>
    obtain rfl := Option.some.inj h
    have found : flag = false ∧ leaf'.admits name = true := by simpa using first
    exact ⟨found.2, required, by simp [found.1]⟩
  | case2 leaf' required members flag rest other taken rest' heq ih =>
    rw [heq] at ih
    obtain ⟨admits, required', hmem⟩ := ih h
    exact ⟨admits, required', List.mem_cons_of_mem _ hmem⟩
  | case3 => simp at h

theorem takeMember_ne_none {name : QName} {members : List (Leaf × Bool)} {seen : List Bool}
    {leaf : Leaf} {required : Bool} (h : ((leaf, required), false) ∈ members.zip seen)
    (admits : leaf.admits name = true) : (takeMember name members seen).1 ≠ none := by
  fun_induction takeMember name members seen with
  | case1 => simp
  | case2 leaf' required' members flag rest other taken rest' heq ih =>
    have later : ((leaf, required), false) ∈ members.zip rest := by
      rcases List.mem_cons.1 h with first | later
      · obtain ⟨⟨rfl, rfl⟩, rfl⟩ : (leaf = leaf' ∧ required = required') ∧ false = flag := by
          simpa using first
        simp [admits] at other
      · exact later
    rw [heq] at ih
    exact ih later
  | case3 members seen none =>
    cases members with
    | nil => simp at h
    | cons member members =>
      cases seen with
      | nil => simp at h
      | cons flag seen => exact absurd rfl (none member.1 member.2 members flag seen rfl)

/-- A child matches with a leaf on offer that admits it. -/
theorem offers_of_step {m next : ContentMatcher} {name : QName} {leaf : Leaf}
    (h : m.step name = (some leaf, next)) : m.Offers leaf ∧ leaf.admits name = true := by
  cases m with
  | automaton a current =>
    obtain ⟨t, first, -⟩ := step_automaton_eq_some_iff.1 h
    obtain ⟨s, state, step, admits⟩ :=
      mem_admittingSteps.1 (candidates_subset (List.mem_of_mem_head? first))
    exact ⟨.edge state step, admits⟩
  | all model seen =>
    obtain ⟨admits, required, unseen⟩ := mem_takeMember (congrArg Prod.fst h)
    exact ⟨.member unseen, admits⟩

/-- If some leaf admits the name, precedence leaves one. -/
theorem candidates_ne_nil {a : Automaton} {current : List Nat} {name : QName}
    (h : admittingSteps a current name ≠ []) : candidates a current name ≠ [] := by
  rw [candidates_eq_ite]
  cases (admittingSteps a current name).filter (·.1.isElement) with
  | nil => exact h
  | cons c rest => simp

/-- A child that a leaf on offer admits matches, with that leaf or another. -/
theorem isSome_step_of_offers {m : ContentMatcher} {leaf : Leaf} (h : m.Offers leaf) {name : QName}
    (admits : leaf.admits name = true) : (m.step name).1.isSome = true := by
  cases h with
  | @edge a current s t _ state step =>
    have some_step : admittingSteps a current name ≠ [] :=
      List.ne_nil_of_mem (mem_admittingSteps.2 ⟨s, state, step, admits⟩)
    obtain ⟨c, rest, chosen⟩ := List.exists_cons_of_ne_nil (candidates_ne_nil some_step)
    simp [ContentMatcher.step, chosen]
  | member unseen => exact Option.isSome_iff_ne_none.2 (takeMember_ne_none unseen admits)

/-! ## The list of expected elements -/

theorem mem_foldl_new (names seen : List String) (name : String) :
    name ∈ names.foldl (fun seen name => if seen.contains name then seen else seen ++ [name]) seen ↔
      name ∈ seen ∨ name ∈ names := by
  induction names generalizing seen with
  | nil => simp
  | cons first names ih =>
    rw [List.foldl_cons, ih]
    by_cases known : first ∈ seen
    · rw [if_pos (by simpa using known), List.mem_cons]
      by_cases same : name = first
      · simp [same, known]
      · simp [same]
    · rw [if_neg (by simpa using known)]
      simp [or_assoc]

theorem nodup_foldl_new (names : List String) {seen : List String} (h : seen.Nodup) :
    (names.foldl (fun seen name => if seen.contains name then seen else seen ++ [name])
      seen).Nodup := by
  induction names generalizing seen with
  | nil => exact h
  | cons first names ih =>
    rw [List.foldl_cons]
    apply ih
    by_cases known : first ∈ seen
    · rwa [if_pos (by simpa using known)]
    · rw [if_neg (by simpa using known)]
      exact List.nodup_append.2 ⟨h, by simp, by grind⟩

theorem nodup_expected (m : ContentMatcher) : m.expected.Nodup :=
  nodup_foldl_new _ List.nodup_nil

theorem mem_expected {m : ContentMatcher} {entry : String} :
    entry ∈ m.expected ↔ ∃ leaf, m.Offers leaf ∧ leaf.describe = entry := by
  unfold expected
  rw [mem_foldl_new]
  simp [mem_available]

/-! ## Live matchers -/

/-- An automaton can go on to its accepting state: every state leads there, and the current states
are some states with all that silent steps lead to.  Nothing is asked of `all` groups. -/
inductive Live : ContentMatcher → Prop
  | automaton {a : Automaton} {current : List Nat} (wellFormed : a.WellFormed)
    (leads : ∀ s < a.states.size, a.Leads s a.accept) (nonempty : current ≠ [])
    (lt : ∀ s ∈ current, s < a.states.size) (closed : SilentClosed a current) :
    Live (.automaton a current)
  | all (model : AllModel) (seen : List Bool) : Live (.all model seen)

theorem live_closure {a : Automaton} (wellFormed : a.WellFormed)
    (leads : ∀ s < a.states.size, a.Leads s a.accept) {seeds : List Nat} (nonempty : seeds ≠ [])
    (hseeds : ∀ s ∈ seeds, s < a.states.size) : Live (.automaton a (a.closure seeds)) := by
  exact .automaton wellFormed leads (closure_ne_nil wellFormed nonempty hseeds)
    (fun s hs => Graph.lt_size_of_mem_closure hs) (silentClosed_closure wellFormed hseeds)

theorem Live.step {m next : ContentMatcher} (h : m.Live) {name : QName} {leaf : Leaf}
    (hstep : m.step name = (some leaf, next)) : next.Live := by
  cases h with
  | @automaton a current wellFormed leads nonempty lt closed =>
    obtain ⟨seeds, some_seed, hseeds, rfl⟩ := exists_seeds_of_step wellFormed hstep
    exact live_closure wellFormed leads some_seed hseeds
  | all model seen =>
    obtain ⟨-, rfl⟩ := Prod.mk.inj hstep
    exact .all model _

theorem live_ofParticle {globals : Globals} {p : Particle ElementDecl}
    (h : globals.NoEmptyChoice 16 p) : (ofParticle globals p).Live := by
  unfold ofParticle
  cases compiled : CompiledModel.ofParticle globals p with
  | all model => exact .all model _
  | automaton a =>
    obtain rfl := Globals.eq_automaton_of_ofParticle compiled
    have any_leaf : globals.LeavesIn (fun _ => True) 16 p := fun _ _ _ _ _ _ => trivial
    obtain ⟨wellFormed, hseeds, -, -⟩ := Globals.reads_automaton any_leaf
    exact live_closure wellFormed (Globals.live_automaton h) (by simp) hseeds

/-- A way out of the current states passes a leaf on offer. -/
theorem mem_or_offers_of_leads {a : Automaton} {current : List Nat} (closed : SilentClosed a current)
    {s t : Nat} (hs : s ∈ current) (way : a.Leads s t) :
    t ∈ current ∨ ∃ leaf, Offers (.automaton a current) leaf := by
  induction way with
  | refl => exact .inl hs
  | tail _ step ih =>
    obtain ⟨label, step⟩ := step
    rcases ih with inside | offer
    · cases label with
      | none => exact .inl (closed _ inside _ step)
      | some leaf => exact .inr ⟨leaf, .edge inside step⟩
    · exact .inr offer

theorem Live.exists_offers {m : ContentMatcher} (h : m.Live) (incomplete : m.isComplete = false) :
    ∃ leaf, m.Offers leaf := by
  cases h with
  | @automaton a current wellFormed leads nonempty lt closed =>
    have not_accepting : a.accept ∉ current := by simpa [isComplete] using incomplete
    obtain ⟨s, rest, hcurrent⟩ := List.exists_cons_of_ne_nil nonempty
    have hs : s ∈ current := by simp [hcurrent]
    exact (mem_or_offers_of_leads closed hs (leads s (lt s hs))).resolve_left not_accepting
  | all model seen =>
    -- a required member is missing, and so it is on offer
    have missing : ∃ leaf, ((leaf, true), false) ∈ model.members.zip seen := by
      have unmet := (Bool.or_eq_false_iff.1 incomplete).2
      simpa using unmet
    obtain ⟨leaf, unseen⟩ := missing
    exact ⟨leaf, .member unseen⟩

/-- In every state that a matcher can get into, a child that does not match changes nothing, and the
list of expected elements agrees with what matches: it has no repetitions, a child that matches is
in it by name or by the description of its wildcard, all its entries describe leaves on offer, and
elements on offer match.  Without empty choices, the list is not empty as long as children are
missing. -/
theorem expected_agrees (globals : Globals) (p : Particle ElementDecl) (names : List QName) :
    let m := (ofParticle globals p).calls names
    (∀ name, (m.step name).1 = none → (m.step name).2 = m) ∧
      m.expected.Nodup ∧
      (∀ name declaration next, m.step name = (some (.element declaration), next) →
        name.text ∈ m.expected) ∧
      (∀ name wildcard next, m.step name = (some (.wildcard wildcard), next) →
        (Leaf.wildcard wildcard).describe ∈ m.expected) ∧
      (∀ entry ∈ m.expected, ∃ leaf, m.Offers leaf ∧ leaf.describe = entry) ∧
      (∀ declaration, m.Offers (.element declaration) →
        (m.step declaration.name).1.isSome = true) ∧
      (globals.NoEmptyChoice 16 p → m.isComplete = false → m.expected ≠ []) := by
  intro m
  refine ⟨fun name => step_snd_of_none, nodup_expected m, ?_, ?_, fun entry => mem_expected.1,
    ?_, ?_⟩
  · intro name declaration next hstep
    obtain ⟨offer, admits⟩ := offers_of_step hstep
    have same : declaration.name = name := by simpa [Leaf.admits] using admits
    exact mem_expected.2 ⟨_, offer, by rw [Leaf.describe, same]⟩
  · intro name wildcard next hstep
    exact mem_expected.2 ⟨_, (offers_of_step hstep).1, rfl⟩
  · intro declaration offer
    exact isSome_step_of_offers offer (by simp [Leaf.admits])
  · intro no_empty_choice incomplete
    have live : m.Live := calls_induction (fun _ _ _ _ h hstep => h.step hstep)
      (live_ofParticle no_empty_choice) names
    obtain ⟨leaf, offer⟩ := live.exists_offers incomplete
    exact List.ne_nil_of_mem (mem_expected.2 ⟨leaf, offer, rfl⟩)

/-- A choice that is made twice, between an element and a wildcard; the first of two children does
not match. -/
theorem expected_agrees_choice :
    let globals : Globals := ⟨fun _ => none, fun _ => none⟩
    let p : Particle ElementDecl := ⟨2, .bounded 2, .choice
      [⟨1, .bounded 1, .elementRef ⟨"", "a"⟩⟩, ⟨1, .bounded 1, .wildcard ⟨.list [""], .lax⟩⟩]⟩
    let m := (ofParticle globals p).calls [⟨"u", "a"⟩, ⟨"", "a"⟩]
    globals.NoEmptyChoice 16 p ∧ m.isComplete = false ∧ m.expected ≠ [] ∧ "a" ∈ m.expected := by
  intro globals p m
  have no_choice : globals.NoEmptyChoice 16 p := by
    rintro n - q nested
    cases nested with
    | refl => simp [p]
    | member mem rest =>
      simp only [p, Term.members, List.mem_cons, List.not_mem_nil, or_false] at mem
      rcases mem with rfl | rfl <;> cases rest with
      | refl => simp
      | member mem _ => simp [Term.members] at mem
      | group ref found _ => simp [globals] at found
    | group ref found _ => simp [globals] at found
  have incomplete : m.isComplete = false := by decide +kernel
  have taken : (m.step ⟨"", "a"⟩).1.map Leaf.isElement = some true := by decide +kernel
  obtain ⟨leaf, hleaf, element⟩ := Option.map_eq_some_iff.1 taken
  have hstep : m.step ⟨"", "a"⟩ = (some leaf, (m.step ⟨"", "a"⟩).2) := by rw [← hleaf]
  obtain ⟨-, -, listed, -, -, -, nonempty⟩ := expected_agrees globals p [⟨"u", "a"⟩, ⟨"", "a"⟩]
  cases leaf with
  | wildcard wildcard => simp [Leaf.isElement] at element
  | element declaration =>
    exact ⟨no_choice, incomplete, nonempty no_choice incomplete, listed _ _ _ hstep⟩

end ContentMatcher

end XmlSchema

import XmlSchema.Proofs.Content.Exactness
import XmlSchema.Proofs.Content.Expectation

/-!
# The order in `all` groups

A particle that is an `all` group, or leads to one through references to model groups, accepts the
arrangements of the group's members (`Globals.accepts_iff_of_allChain`).  The order of the children
matters neither to that nor to the state of the matcher behind them: the state only notes which
names have occurred (`AllMember.flags`), also when some of the children did not match.
-/

namespace XmlSchema

/-! ## Which members have occurred -/

namespace AllMember

/-- For each member, whether its name is among those that have occurred. -/
def flags (ms : List AllMember) (done : List QName) : List Bool :=
  ms.map fun m => decide (m.1.name ∈ done)

variable {ms : List AllMember} {done done' : List QName} {name : QName}

theorem flags_cons (m : AllMember) (ms : List AllMember) (done : List QName) :
    flags (m :: ms) done = decide (m.1.name ∈ done) :: flags ms done := rfl

theorem flags_congr (h : ∀ m ∈ ms, m.1.name ∈ done ↔ m.1.name ∈ done') :
    flags ms done = flags ms done' :=
  List.map_congr_left fun m hm => by simp [h m hm]

theorem mem_unseen_flags :
    name ∈ unseen ms (flags ms done) ↔ name ∈ ms.map (·.1.name) ∧ name ∉ done := by
  induction ms with
  | nil => simp [unseen]
  | cons m ms ih =>
    rw [flags_cons]
    by_cases known : m.1.name ∈ done
    · rw [decide_eq_true known, unseen, ih, List.map_cons, List.mem_cons]
      constructor
      · rintro ⟨later, fresh⟩
        exact ⟨.inr later, fresh⟩
      · rintro ⟨rfl | later, fresh⟩
        · exact absurd known fresh
        · exact ⟨later, fresh⟩
    · rw [decide_eq_false known, unseen, List.mem_cons, ih, List.map_cons, List.mem_cons]
      constructor
      · rintro (rfl | ⟨later, fresh⟩)
        · exact ⟨.inl rfl, known⟩
        · exact ⟨.inr later, fresh⟩
      · rintro ⟨first | later, fresh⟩
        · exact .inl first
        · exact .inr ⟨later, fresh⟩

end AllMember

namespace ContentMatcher

open AllMember

variable {ms : List AllMember} {name : QName}

/-- Marking the member with a name adds the name to those that have occurred. -/
theorem takeMember_flags (distinct : (ms.map (·.1.name)).Nodup) {done : List QName}
    (member : name ∈ ms.map (·.1.name)) (fresh : name ∉ done) :
    ∃ leaf, takeMember name (ms.map toLeaf) (flags ms done) =
      (some leaf, flags ms (name :: done)) := by
  induction ms with
  | nil => simp at member
  | cons m ms ih =>
    rw [List.map_cons, List.nodup_cons] at distinct
    by_cases first : m.1.name = name
    · -- the names behind differ from this one, and so nothing else is marked
      have same : flags ms (name :: done) = flags ms done := by
        refine flags_congr fun m' hm' => ?_
        have other : m'.1.name ≠ name := by
          intro heq
          exact distinct.1 (first ▸ heq ▸ List.mem_map_of_mem hm')
        simp [other]
      refine ⟨.element m.1, ?_⟩
      rw [flags_cons, flags_cons, same]
      simp [takeMember, toLeaf, Leaf.admits, first, fresh]
    · have later : name ∈ ms.map (·.1.name) := by
        simpa [Ne.symm first] using member
      obtain ⟨leaf, taken⟩ := ih distinct.2 later
      refine ⟨leaf, ?_⟩
      rw [flags_cons, flags_cons]
      simp [takeMember, toLeaf, Leaf.admits, first, taken]

section Flags

variable (distinct : (ms.map (·.1.name)).Nodup) (isOptional : Bool) (done : List QName)

include distinct

theorem step_flags (member : name ∈ ms.map (·.1.name)) (fresh : name ∉ done) :
    ∃ leaf, (all ⟨ms.map toLeaf, isOptional⟩ (flags ms done)).step name =
      (some leaf, all ⟨ms.map toLeaf, isOptional⟩ (flags ms (name :: done))) := by
  obtain ⟨leaf, taken⟩ := takeMember_flags distinct member fresh
  exact ⟨leaf, by simp [step, taken]⟩

omit distinct in
theorem step_flags_eq_none (h : ¬ (name ∈ ms.map (·.1.name) ∧ name ∉ done)) :
    ((all ⟨ms.map toLeaf, isOptional⟩ (flags ms done)).step name).1 = none :=
  takeMember_eq_none (mt mem_unseen_flags.1 h)

theorem step_flags_snd (name : QName) :
    ((all ⟨ms.map toLeaf, isOptional⟩ (flags ms done)).step name).2 =
      all ⟨ms.map toLeaf, isOptional⟩ (flags ms (name :: done)) := by
  by_cases h : name ∈ ms.map (·.1.name) ∧ name ∉ done
  · obtain ⟨leaf, hstep⟩ := step_flags distinct isOptional done h.1 h.2
    rw [hstep]
  · -- the name is of no member, or it has occurred
    have same : flags ms (name :: done) = flags ms done := by
      refine flags_congr fun m hm => ?_
      by_cases heq : m.1.name = name
      · have known : name ∈ done := by
          by_contra fresh
          exact h ⟨heq ▸ List.mem_map_of_mem hm, fresh⟩
        simp [heq, known]
      · simp [heq]
    rw [step_snd_of_none (step_flags_eq_none isOptional done h), same]

/-- Whether they match or not, the names of children that are members have occurred. -/
theorem calls_flags (w : List QName) :
    (all ⟨ms.map toLeaf, isOptional⟩ (flags ms done)).calls w =
      all ⟨ms.map toLeaf, isOptional⟩ (flags ms (w ++ done)) := by
  induction w generalizing done with
  | nil => rfl
  | cons name w ih =>
    have same : flags ms (w ++ name :: done) = flags ms (name :: w ++ done) :=
      flags_congr fun m _ => by simp [or_left_comm]
    rw [calls_cons, step_flags_snd distinct, ih, same]

theorem isSome_matchAll_flags (w : List QName) :
    ((all ⟨ms.map toLeaf, isOptional⟩ (flags ms done)).matchAll w).isSome = true ↔
      w.Nodup ∧ ∀ name ∈ w, name ∈ ms.map (·.1.name) ∧ name ∉ done := by
  induction w generalizing done with
  | nil => simp [matchAll]
  | cons name w ih =>
    rw [matchAll, List.nodup_cons, List.forall_mem_cons]
    by_cases h : name ∈ ms.map (·.1.name) ∧ name ∉ done
    · obtain ⟨leaf, hstep⟩ := step_flags distinct isOptional done h.1 h.2
      simp only [hstep, Option.isSome_map, ih, List.mem_cons, not_or]
      constructor
      · rintro ⟨nodup, later⟩
        exact ⟨⟨fun hw => (later name hw).2.1 rfl, nodup⟩, h,
          fun other hw => ⟨(later other hw).1, (later other hw).2.2⟩⟩
      · rintro ⟨⟨once, nodup⟩, -, later⟩
        refine ⟨nodup, fun other hw => ⟨(later other hw).1, ?_, (later other hw).2⟩⟩
        rintro rfl
        exact once hw
    · have unmatched := step_flags_eq_none isOptional done h
      generalize (all ⟨ms.map toLeaf, isOptional⟩ (flags ms done)).step name = taken at unmatched ⊢
      obtain ⟨_, next⟩ := taken
      obtain rfl := unmatched
      constructor
      · intro matched
        simp at matched
      · rintro ⟨-, here, -⟩
        exact absurd here h

end Flags

theorem calls_of_matchAll {m last : ContentMatcher} {w : List QName} {leaves : List Leaf}
    (h : m.matchAll w = some (leaves, last)) : m.calls w = last := by
  induction w generalizing m leaves with
  | nil =>
    simp only [matchAll, Option.some.injEq, Prod.mk.injEq] at h
    exact h.2
  | cons name w ih =>
    rw [matchAll] at h
    rw [calls_cons]
    generalize m.step name = taken at h ⊢
    obtain ⟨_ | leaf, next⟩ := taken
    · simp at h
    · obtain ⟨⟨rest, last'⟩, hrest, heq⟩ := Option.map_eq_some_iff.1 h
      obtain ⟨-, rfl⟩ := Prod.mk.inj heq
      exact ih hrest

/-- The order of the children does not matter for the state of an `all` group behind them. -/
theorem calls_perm (distinct : (ms.map (·.1.name)).Nodup) (isOptional : Bool) {w w' : List QName}
    (perm : w.Perm w') :
    let m := ofModel (.all ⟨ms.map toLeaf, isOptional⟩)
    m.calls w = m.calls w' ∧ (m.matchAll w).map Prod.snd = (m.matchAll w').map Prod.snd := by
  intro m
  have initial : m = all ⟨ms.map toLeaf, isOptional⟩ (flags ms []) := by
    simp [m, ofModel, flags, Function.comp_def]
  have same : m.calls w = m.calls w' := by
    rw [initial, calls_flags distinct, calls_flags distinct]
    congr 1
    exact flags_congr fun _ _ => by simp [perm.mem_iff]
  have matches_iff : (m.matchAll w).isSome = true ↔ (m.matchAll w').isSome = true := by
    rw [initial, isSome_matchAll_flags distinct, isSome_matchAll_flags distinct, perm.nodup_iff]
    simp only [perm.mem_iff]
  refine ⟨same, ?_⟩
  cases h : m.matchAll w with
  | none =>
    have none' : m.matchAll w' = none := by
      simpa [h] using matches_iff
    rw [none']
  | some result =>
    obtain ⟨result', h'⟩ := Option.isSome_iff_exists.1 (matches_iff.1 (by simp [h]))
    rw [h', Option.map_some, Option.map_some, ← calls_of_matchAll h, ← calls_of_matchAll h', same]

end ContentMatcher

/-! ## Particles that lead to an `all` group -/

namespace Globals

/-- The particles on the way from one through references to model groups to an `all` group, and the
items of that group. -/
inductive AllChain (globals : Globals) :
    Particle ElementDecl → List (Particle ElementDecl) → List (Particle ElementDecl) → Prop
  | all {p : Particle ElementDecl} {items : List (Particle ElementDecl)}
    (term : p.term = .all items) : AllChain globals p [p] items
  | ref {p q : Particle ElementDecl} {name : QName} {chain items : List (Particle ElementDecl)}
    (term : p.term = .groupRef name) (found : globals.group? name = some q)
    (rest : AllChain globals q chain items) : AllChain globals p (p :: chain) items

/-- The names of the elements among the items of an `all` group. -/
def memberNames (globals : Globals) (items : List (Particle ElementDecl)) : List QName :=
  (items.filterMap (globals.declaration? ·.term)).map (·.name)

variable {globals : Globals} {p : Particle ElementDecl}
  {chain items : List (Particle ElementDecl)}

theorem AllChain.topLevelAll?_eq (h : globals.AllChain p chain items) {levels : Nat}
    (short : chain.length ≤ levels + 1) :
    globals.topLevelAll? levels p = some (items, chain.any fun q => q.min == 0) := by
  induction h generalizing levels with
  | @all p items term =>
    obtain ⟨min, max, _⟩ := p
    obtain rfl := term
    simp [topLevelAll?]
  | @ref p q name chain items term found rest ih =>
    have nonempty : chain ≠ [] := by
      cases rest <;> simp
    have pos := List.length_pos_iff.2 nonempty
    rw [List.length_cons] at short
    obtain ⟨levels, rfl⟩ : ∃ n, levels = n + 1 := ⟨levels - 1, by omega⟩
    obtain ⟨min, max, _⟩ := p
    obtain rfl := term
    simp [topLevelAll?, found, ih (Nat.le_of_succ_le_succ short), Bool.or_comm]

theorem memberNames_filter_subset (w : List QName) :
    globals.memberNames (items.filter fun m => 0 < m.min) ⊆ w ↔
      ∀ m ∈ globals.allMembers items, m.2 = true → m.1.name ∈ w := by
  simp only [memberNames, allMembers, List.subset_def, List.mem_map, List.mem_filterMap,
    List.mem_filter, decide_eq_true_eq]
  constructor
  · rintro required _ ⟨item, hitem, hmember⟩ positive
    obtain ⟨declaration, element, rfl⟩ := Option.map_eq_some_iff.1 hmember
    exact required ⟨declaration, ⟨item, ⟨hitem, by simpa using positive⟩, element⟩, rfl⟩
  · rintro required _ ⟨declaration, ⟨item, ⟨hitem, positive⟩, element⟩, rfl⟩
    exact required (declaration, true) ⟨item, hitem, by simp [element, positive]⟩ rfl

theorem AllChain.ofParticle_eq (h : globals.AllChain p chain items) (short : chain.length ≤ 17)
    (elements : ∀ m ∈ items, (globals.declaration? m.term).isSome = true) :
    ContentMatcher.ofParticle globals p = .ofModel (.all
      ⟨(globals.allMembers items).map AllMember.toLeaf, chain.any fun q => q.min == 0⟩) := by
  have top : globals.topLevelAll? groupDepth p = some (items, chain.any fun q => q.min == 0) :=
    h.topLevelAll?_eq short
  unfold ContentMatcher.ofParticle CompiledModel.ofParticle
  rw [top]
  dsimp only
  rw [leaves_allMembers elements]

/-- Let a particle be an `all` group of elements with different names, or lead to one through at
most 16 references to model groups.  It accepts nothing at all if one of the particles on the way
may be left out, and the arrangements of the members in which none occurs twice and none that is
required is missing.  So the order does not matter, neither to acceptance nor to the state behind
the children, whether all of them matched or not. -/
theorem accepts_iff_of_allChain (globals : Globals) (p : Particle ElementDecl)
    (chain items : List (Particle ElementDecl)) (way : globals.AllChain p chain items)
    (short : chain.length ≤ 16 + 1)
    (elements : ∀ m ∈ items, (globals.declaration? m.term).isSome = true)
    (distinct : (globals.memberNames items).Nodup) (w : List QName) :
    let m := ContentMatcher.ofParticle globals p
    (m.Accepts w ↔ (w = [] ∧ ∃ q ∈ chain, q.min = 0) ∨
        (w.Nodup ∧ w ⊆ globals.memberNames items ∧
          globals.memberNames (items.filter fun m => 0 < m.min) ⊆ w)) ∧
      ∀ w', w.Perm w' → (m.Accepts w ↔ m.Accepts w') ∧
        (m.matchAll w).map Prod.snd = (m.matchAll w').map Prod.snd ∧ m.calls w = m.calls w' := by
  intro m
  have compiled : m = _ := way.ofParticle_eq short elements
  have names_eq : (globals.allMembers items).map (·.1.name) = globals.memberNames items :=
    names_allMembers items
  have distinct' : ((globals.allMembers items).map (·.1.name)).Nodup := names_eq ▸ distinct
  have accepts_iff (v : List QName) : m.Accepts v ↔ (v = [] ∧ ∃ q ∈ chain, q.min = 0) ∨
      (v.Nodup ∧ v ⊆ globals.memberNames items ∧
        globals.memberNames (items.filter fun m => 0 < m.min) ⊆ v) := by
    rw [compiled, ContentMatcher.accepts_all_iff distinct', names_eq, memberNames_filter_subset,
      or_comm]
    simp [and_comm]
  refine ⟨accepts_iff w, fun w' perm => ?_⟩
  have state_eq := ContentMatcher.calls_perm distinct' (chain.any fun q => q.min == 0) perm
  rw [← compiled] at state_eq
  refine ⟨?_, state_eq.2, state_eq.1⟩
  have empty_iff : w = [] ↔ w' = [] := by
    rw [← List.length_eq_zero_iff, perm.length_eq, List.length_eq_zero_iff]
  rw [accepts_iff, accepts_iff, perm.nodup_iff, empty_iff]
  simp only [List.subset_def, perm.mem_iff]

/-- A reference to a group of a required element and an optional one; the group itself may be left
out. -/
theorem accepts_iff_of_allChain_reference :
    let required : Particle ElementDecl := ⟨1, .bounded 1, .elementRef ⟨"", "a"⟩⟩
    let optional : Particle ElementDecl := ⟨0, .bounded 1, .elementRef ⟨"", "b"⟩⟩
    let q : Particle ElementDecl := ⟨0, .bounded 1, .all [required, optional]⟩
    let p : Particle ElementDecl := ⟨1, .bounded 1, .groupRef ⟨"", "g"⟩⟩
    let globals : Globals := ⟨fun _ => none, fun _ => some q⟩
    let m := ContentMatcher.ofParticle globals p
    globals.AllChain p [p, q] [required, optional] ∧ m.Accepts [] ∧ m.Accepts [⟨"", "a"⟩] ∧
      ¬ m.Accepts [⟨"", "b"⟩] ∧ m.Accepts [⟨"", "b"⟩, ⟨"", "a"⟩] ∧
      m.calls [⟨"", "b"⟩, ⟨"", "a"⟩] = m.calls [⟨"", "a"⟩, ⟨"", "b"⟩] := by
  intro required optional q p globals m
  have way : globals.AllChain p [p, q] [required, optional] := .ref rfl rfl (.all rfl)
  have elements : ∀ item ∈ [required, optional],
      (globals.declaration? item.term).isSome = true := by
    simp [required, optional, declaration?]
  have distinct : (globals.memberNames [required, optional]).Nodup := by decide
  have arrangements := accepts_iff_of_allChain globals p _ _ way (by decide) elements distinct
  refine ⟨way, (arrangements _).1.2 (.inl ⟨rfl, q, by simp, rfl⟩), ?_, ?_, ?_,
    ((arrangements _).2 _ (List.Perm.swap _ _ [])).2.2⟩
  · exact (arrangements _).1.2 (.inr (by decide))
  · intro accepted
    rcases (arrangements _).1.1 accepted with ⟨empty, -⟩ | ⟨-, -, missing⟩
    · simp at empty
    · revert missing
      decide
  · exact (arrangements _).1.2 (.inr (by decide))

end Globals

end XmlSchema

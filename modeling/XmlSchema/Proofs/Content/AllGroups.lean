import XmlSchema.Proofs.Content.Language

/-!
# Groups whose members come in any order

The matcher of an `all` group notes which members have occurred.  When the members are elements
with different names, it accepts exactly the arrangements of the members in which none occurs twice
and none that is required is missing (`ContentMatcher.accepts_all_iff`).
-/

namespace XmlSchema

/-- A member of an `all` group: an element, and whether it is required. -/
abbrev AllMember := ElementDecl × Bool

namespace AllMember

/-- The member as part of a compiled model. -/
def toLeaf (m : AllMember) : Leaf × Bool := (.element m.1, m.2)

/-- The names of the members that have not occurred. -/
def unseen : List AllMember → List Bool → List QName
  | _ :: ms, true :: seen => unseen ms seen
  | m :: ms, false :: seen => m.1.name :: unseen ms seen
  | _, _ => []

/-- The names of the required members that have not occurred. -/
def unmet : List AllMember → List Bool → List QName
  | _ :: ms, true :: seen => unmet ms seen
  | (_, false) :: ms, false :: seen => unmet ms seen
  | (declaration, true) :: ms, false :: seen => declaration.name :: unmet ms seen
  | _, _ => []

variable {ms : List AllMember} {seen : List Bool}

theorem mem_unmet_cons {m : AllMember} {name : QName} :
    name ∈ unmet (m :: ms) (false :: seen) ↔
      (m.2 = true ∧ name = m.1.name) ∨ name ∈ unmet ms seen := by
  match m with
  | (declaration, false) => simp [unmet]
  | (declaration, true) => simp [unmet]

theorem unmet_subset_unseen : unmet ms seen ⊆ unseen ms seen := by
  fun_induction unmet ms seen with
  | case1 m ms seen ih => exact ih
  | case2 declaration ms seen ih => exact List.subset_cons_of_subset _ ih
  | case3 declaration ms seen ih => exact List.cons_subset_cons _ ih
  | case4 => exact List.nil_subset _

theorem unseen_subset_names : unseen ms seen ⊆ ms.map (·.1.name) := by
  fun_induction unseen ms seen with
  | case1 m ms seen ih => exact List.subset_cons_of_subset _ ih
  | case2 m ms seen ih => exact List.cons_subset_cons _ ih
  | case3 => exact List.nil_subset _

theorem unseen_initial (ms : List AllMember) :
    unseen ms (ms.map fun _ => false) = ms.map (·.1.name) := by
  induction ms with
  | nil => rfl
  | cons m ms ih => exact congrArg (m.1.name :: ·) ih

theorem unmet_initial (ms : List AllMember) :
    unmet ms (ms.map fun _ => false) = (ms.filter (·.2)).map (·.1.name) := by
  induction ms with
  | nil => rfl
  | cons m ms ih =>
    match m with
    | (declaration, false) => exact ih
    | (declaration, true) => exact congrArg (declaration.name :: ·) ih

end AllMember

open AllMember

namespace ContentMatcher

variable {ms : List AllMember} {seen : List Bool} {name : QName}

theorem takeMember_eq_none (h : name ∉ unseen ms seen) :
    (takeMember name (ms.map toLeaf) seen).1 = none := by
  fun_induction unseen ms seen with
  | case1 m ms seen ih => simp [takeMember, toLeaf, ih h]
  | case2 m ms seen ih =>
    rw [List.mem_cons, not_or] at h
    simp [takeMember, toLeaf, Leaf.admits, Ne.symm h.1, ih h.2]
  | case3 ms seen hseen hunseen =>
    rcases ms with _ | ⟨m, ms⟩
    · rfl
    · rcases seen with _ | ⟨_ | _, seen⟩
      · rfl
      · exact (hunseen m ms seen rfl rfl).elim
      · exact (hseen m ms seen rfl rfl).elim

/-- Marking the member with a name takes the name off those that have not occurred. -/
theorem takeMember_of_mem (distinct : (ms.map (·.1.name)).Nodup) (h : name ∈ unseen ms seen) :
    ∃ leaf seen', takeMember name (ms.map toLeaf) seen = (some leaf, seen') ∧
      (∀ other, other ∈ unseen ms seen' ↔ other ∈ unseen ms seen ∧ other ≠ name) ∧
      (∀ other, other ∈ unmet ms seen' ↔ other ∈ unmet ms seen ∧ other ≠ name) ∧
      true ∈ seen' := by
  fun_induction unseen ms seen with
  | case1 m ms seen ih =>
    rw [List.map_cons, List.nodup_cons] at distinct
    obtain ⟨leaf, seen', taken, hunseen, hunmet, -⟩ := ih distinct.2 h
    refine ⟨leaf, true :: seen', ?_, hunseen, hunmet, List.mem_cons_self⟩
    simp [takeMember, toLeaf, taken]
  | case2 m ms seen ih =>
    rw [List.map_cons, List.nodup_cons] at distinct
    by_cases hm : m.1.name = name
    · -- this is the member; no other has its name
      have hname : name ∉ unseen ms seen := fun hmem => distinct.1 (hm ▸ unseen_subset_names hmem)
      refine ⟨.element m.1, true :: seen, ?_, fun other => ?_, fun other => ?_, List.mem_cons_self⟩
      · simp [takeMember, toLeaf, Leaf.admits, hm]
      · rw [unseen, List.mem_cons, hm]
        constructor
        · intro hother
          exact ⟨.inr hother, fun h => hname (h ▸ hother)⟩
        · rintro ⟨hother | hother, hne⟩
          · exact absurd hother hne
          · exact hother
      · rw [unmet, mem_unmet_cons, hm]
        constructor
        · intro hother
          exact ⟨.inr hother, fun h => hname (h ▸ unmet_subset_unseen hother)⟩
        · rintro ⟨⟨-, hother⟩ | hother, hne⟩
          · exact absurd hother hne
          · exact hother
    · have hmem : name ∈ unseen ms seen := (List.mem_cons.1 h).resolve_left (Ne.symm hm)
      obtain ⟨leaf, seen', taken, hunseen, hunmet, hseen⟩ := ih distinct.2 hmem
      refine ⟨leaf, false :: seen', ?_, ?_, ?_, List.mem_cons_of_mem _ hseen⟩
      · simp [takeMember, toLeaf, Leaf.admits, hm, taken]
      · intro other
        rw [unseen, List.mem_cons, List.mem_cons, hunseen]
        constructor
        · rintro (rfl | ⟨hother, hne⟩)
          · exact ⟨.inl rfl, hm⟩
          · exact ⟨.inr hother, hne⟩
        · rintro ⟨hother | hother, hne⟩
          · exact .inl hother
          · exact .inr ⟨hother, hne⟩
      · intro other
        rw [mem_unmet_cons, mem_unmet_cons, hunmet]
        constructor
        · rintro (⟨hm2, rfl⟩ | ⟨hother, hne⟩)
          · exact ⟨.inl ⟨hm2, rfl⟩, hm⟩
          · exact ⟨.inr hother, hne⟩
        · rintro ⟨hother | hother, hne⟩
          · exact .inl hother
          · exact .inr ⟨hother, hne⟩
  | case3 => simp at h

theorem isComplete_all (isOptional : Bool) :
    (all ⟨ms.map toLeaf, isOptional⟩ seen).isComplete = true ↔
      (isOptional = true ∧ true ∉ seen) ∨ unmet ms seen = [] := by
  have met : (((ms.map toLeaf).zip seen).all fun m => m.2 || !m.1.2) = true ↔
      unmet ms seen = [] := by
    fun_induction unmet ms seen with
    | case1 m ms seen ih => simpa [toLeaf] using ih
    | case2 declaration ms seen ih => simpa [toLeaf] using ih
    | case3 declaration ms seen ih => simp [toLeaf]
    | case4 ms seen hseen hoptional hrequired =>
      rcases ms with _ | ⟨⟨d, required⟩, ms⟩
      · simp
      · rcases seen with _ | ⟨_ | _, seen⟩
        · simp
        · cases required with
          | false => exact (hoptional d ms seen rfl rfl).elim
          | true => exact (hrequired d ms seen rfl rfl).elim
        · exact (hseen (d, required) ms seen rfl rfl).elim
  rw [isComplete, Bool.or_eq_true, Bool.and_eq_true]
  exact or_congr (by simp) met

/-- What the matcher of an `all` group accepts when some members have occurred. -/
theorem accepts_all_of_seen (distinct : (ms.map (·.1.name)).Nodup) (isOptional : Bool)
    (seen : List Bool) (w : List QName) :
    (all ⟨ms.map toLeaf, isOptional⟩ seen).Accepts w ↔
      (w.Nodup ∧ w ⊆ unseen ms seen ∧ unmet ms seen ⊆ w) ∨
        (isOptional = true ∧ true ∉ seen ∧ w = []) := by
  induction w generalizing seen with
  | nil =>
    rw [accepts_nil, isComplete_all]
    simp [or_comm]
  | cons name w ih =>
    rw [accepts_cons]
    simp only [step]
    by_cases h : name ∈ unseen ms seen
    · obtain ⟨leaf, seen', taken, hunseen, hunmet, hseen⟩ := takeMember_of_mem distinct h
      simp only [taken, Option.some.injEq, Prod.mk.injEq]
      constructor
      · rintro ⟨_, _, ⟨rfl, rfl⟩, rest⟩
        obtain ⟨nodup, present, met⟩ | ⟨-, none_seen, -⟩ := (ih seen').1 rest
        · refine .inl ⟨List.nodup_cons.2 ⟨fun hw => ((hunseen name).1 (present hw)).2 rfl, nodup⟩,
            List.cons_subset.2 ⟨h, fun other hw => ((hunseen other).1 (present hw)).1⟩, ?_⟩
          intro other hother
          by_cases hne : other = name
          · exact hne ▸ List.mem_cons_self
          · exact List.mem_cons_of_mem _ (met ((hunmet other).2 ⟨hother, hne⟩))
        · exact absurd hseen none_seen
      · rintro (⟨nodup, present, met⟩ | ⟨-, -, hnil⟩)
        · refine ⟨leaf, _, ⟨rfl, rfl⟩, (ih seen').2 (.inl ⟨nodup.of_cons, ?_, ?_⟩)⟩
          · intro other hother
            refine (hunseen other).2 ⟨present (List.mem_cons_of_mem _ hother), ?_⟩
            rintro rfl
            exact (List.nodup_cons.1 nodup).1 hother
          · intro other hother
            obtain ⟨hother, hne⟩ := (hunmet other).1 hother
            exact (List.mem_cons.1 (met hother)).resolve_left hne
        · simp at hnil
    · simp [takeMember_eq_none h, List.cons_subset, h]

/-- The matcher of an `all` group of elements with different names accepts exactly the
arrangements of its members in which no member occurs twice and no required one is missing; a group
that may be left out also accepts nothing at all. -/
theorem accepts_all_iff (distinct : (ms.map (·.1.name)).Nodup) (isOptional : Bool)
    (w : List QName) :
    (ofModel (.all ⟨ms.map toLeaf, isOptional⟩)).Accepts w ↔
      (w.Nodup ∧ w ⊆ ms.map (·.1.name) ∧ ∀ m ∈ ms, m.2 = true → m.1.name ∈ w) ∨
        (isOptional = true ∧ w = []) := by
  have initial := accepts_all_of_seen distinct isOptional (ms.map fun _ => false) w
  rw [unseen_initial, unmet_initial] at initial
  unfold ofModel
  dsimp only
  rw [List.map_map]
  refine initial.trans (or_congr (and_congr_right' (and_congr_right' ?_)) ?_)
  · simp only [List.subset_def, List.mem_map, List.mem_filter]
    constructor
    · intro met m hm required
      exact met ⟨m, ⟨hm, required⟩, rfl⟩
    · rintro met _ ⟨m, ⟨hm, required⟩, rfl⟩
      exact met m hm required
  · simp

end ContentMatcher

end XmlSchema

import Mathlib.Order.CompletePartialOrder
import XmlSchema.Proofs.Content.AllGroups

/-!
# Limits of expansion

`Globals.exactLanguage` is the language of a particle with its occurrence bounds as they stand,
where the members of an `all` group come in any order.  Compilation departs from it in three ways:
minima are cut, large maxima dropped, and members of a nested `all` group may come any number of
times.  None of them rejects a word of the exact language, and a particle that gives no occasion
for them is matched exactly.  Both come from one comparison of the two languages along the
particle (`relate_particle`), once as inclusion and once as its converse.
-/

namespace XmlSchema

open Computability

/-! ## Exact languages -/

/-- Words of several languages, one of each, in any order. -/
def anyOrder (Ls : List (Language QName)) : Language QName :=
  {w : List QName | ∃ order : List (Language QName), order.Perm Ls ∧ w ∈ order.prod}

/-- The maximum as a number, if there is one. -/
def MaxOccurs.bound? : MaxOccurs → Option Nat
  | .bounded n => some n
  | .unbounded => none

section ExactLanguages

variable (globals : Globals) (group : QName → Language QName)

mutual

/-- The words of a particle, its bounds taken as they stand. -/
def Particle.exactLanguage : Particle ElementDecl → Language QName
  | ⟨min, max, term⟩ => repetitions term.exactLanguage min max.bound?

/-- The words of a term; the members of an `all` group come in any order. -/
def Term.exactLanguage : Term ElementDecl → Language QName
  | .element declaration => {[declaration.name]}
  | .elementRef name => {[(globals.element name).name]}
  | .wildcard wildcard => Leaf.language (.wildcard wildcard)
  | .sequence items => (Particle.exactLanguages items).prod
  | .choice items => (Particle.exactLanguages items).sum
  | .all items => anyOrder (Particle.exactLanguages items)
  | .groupRef name => group name

/-- The exact languages of several particles. -/
def Particle.exactLanguages : List (Particle ElementDecl) → List (Language QName)
  | [] => []
  | p :: ps => p.exactLanguage :: Particle.exactLanguages ps

end

end ExactLanguages

namespace Globals

/-- The words of a reference to a model group that are found by following references so deep. -/
def exactGroup (globals : Globals) : Nat → QName → Language QName
  | 0, _ => 0
  | levels + 1, name =>
    match globals.group? name with
    | some p => p.exactLanguage globals (globals.exactGroup levels)
    | none => 0

/-- The words that a particle stands for when nothing is cut: those that are found by following
references to some depth. -/
def exactLanguage (globals : Globals) (p : Particle ElementDecl) : Language QName :=
  {w : List QName | ∃ levels, w ∈ p.exactLanguage globals (globals.exactGroup levels)}

/-! ## Conditions on particles -/

/-- The element that a term stands for, if it is one. -/
def declaration? (globals : Globals) : Term ElementDecl → Option ElementDecl
  | .element declaration => some declaration
  | .elementRef name => some (globals.element name)
  | _ => none

/-- The second particle is the first, or the one that its references to model groups lead to. -/
inductive RefersTo (globals : Globals) : Particle ElementDecl → Particle ElementDecl → Prop where
  | refl (p : Particle ElementDecl) : RefersTo globals p p
  | ref {p q r : Particle ElementDecl} {name : QName} (ref : p.term = .groupRef name)
    (found : globals.group? name = some q) (rest : RefersTo globals q r) : RefersTo globals p r

/-- A particle without wildcards whose parts obey the rules for schemas, with references to model
groups nested at most 16 deep. -/
structure Disciplined (globals : Globals) (p : Particle ElementDecl) : Prop where
  no_wildcard : ∀ n q wildcard, globals.Nested p n q → q.term ≠ .wildcard wildcard
  min_le_max : ∀ n q max, globals.Nested p n q → q.max = .bounded max → q.min ≤ max
  /-- Every reference leads to a group, and it is at most the sixteenth on the way. -/
  resolves : ∀ n q name, globals.Nested p n q → q.term = .groupRef name →
    n + 1 ≤ 16 ∧ (globals.group? name).isSome
  /-- The members of `all` groups are elements that occur at most once. -/
  all_members : ∀ n q items, globals.Nested p n q → q.term = .all items →
    ∀ m ∈ items, m.max = .bounded 1 ∧ (globals.declaration? m.term).isSome
  all_distinct : ∀ n q items, globals.Nested p n q → q.term = .all items →
    ((items.filterMap (globals.declaration? ·.term)).map (·.name)).Nodup
  /-- An `all` group at the top, and the references that lead to it, occur at most once. -/
  top_once : ∀ q r items, globals.RefersTo p q → globals.RefersTo q r → r.term = .all items →
    q.max = .bounded 1

/-- The bounds of a particle are not cut, and there are no `all` groups but at its top. -/
structure WithinLimits (globals : Globals) (p : Particle ElementDecl) : Prop where
  min_le : ∀ n q, globals.Nested p n q → q.min ≤ 64
  max_le : ∀ n q max, globals.Nested p n q → q.max = .bounded max → max ≤ 128
  all_on_top : ∀ n q items, globals.Nested p n q → q.term = .all items → globals.RefersTo p q

end Globals

/-! ## Comparing languages -/

section Relate

variable {globals : Globals} {R : Language QName → Language QName → Prop}
  {S : Particle ElementDecl → Prop} {G H : QName → Language QName}

/-- A comparison of languages that respects sums and products. -/
structure Congruent (R : Language QName → Language QName → Prop) : Prop where
  refl : ∀ L, R L L
  add : ∀ {K K' L L'}, R K K' → R L L' → R (K + L) (K' + L')
  mul : ∀ {K K' L L'}, R K K' → R L L' → R (K * L) (K' * L')

theorem congruent_le : Congruent (· ≤ ·) :=
  ⟨fun _ => le_rfl, add_le_add, mul_le_mul'⟩

theorem congruent_ge : Congruent (· ≥ ·) :=
  ⟨fun _ => le_rfl, add_le_add, mul_le_mul'⟩

theorem Congruent.sum (hR : Congruent R) {Ks Ls : List (Language QName)}
    (h : List.Forall₂ R Ks Ls) : R Ks.sum Ls.sum := by
  induction h with
  | nil => exact hR.refl 0
  | cons head _ ih =>
    rw [List.sum_cons, List.sum_cons]
    exact hR.add head ih

theorem Congruent.prod (hR : Congruent R) {Ks Ls : List (Language QName)}
    (h : List.Forall₂ R Ks Ls) : R Ks.prod Ls.prod := by
  induction h with
  | nil => exact hR.refl 1
  | cons head _ ih =>
    rw [List.prod_cons, List.prod_cons]
    exact hR.mul head ih

/-- A comparison that holds at every place of the particles with `S` where it is not led down to
their members: at bounds, at `all` groups and at references to groups. -/
structure Relates (globals : Globals) (R : Language QName → Language QName → Prop)
    (S : Particle ElementDecl → Prop) (G H : QName → Language QName) : Prop
    extends Congruent R where
  closed : ∀ p q, S p → q ∈ p.term.members → S q
  occurs : ∀ p K L, S p → R K L → R (repetitions K p.min p.max.bound?)
    (repetitions L (Nat.min p.min expandedMin) (p.max.expanded? (Nat.min p.min expandedMin)))
  all : ∀ min max items, S ⟨min, max, .all items⟩ →
    (∀ m ∈ items, R (m.term.exactLanguage globals G) (m.term.language globals H)) →
    R (anyOrder (Particle.exactLanguages globals G items))
      (Particle.termLanguages globals H items).sum∗
  groups : ∀ p name, S p → p.term = .groupRef name → R (G name) (H name)

mutual

theorem relate_particle (hR : Relates globals R S G H) : ∀ p : Particle ElementDecl, S p →
    R (p.exactLanguage globals G) (p.language globals H)
  | ⟨min, max, term⟩, h => by
    rw [Particle.language_eq, Particle.exactLanguage]
    exact hR.occurs ⟨min, max, term⟩ _ _ h (relate_term hR term min max h)

theorem relate_term (hR : Relates globals R S G H) :
    ∀ (term : Term ElementDecl) (min : Nat) (max : MaxOccurs), S ⟨min, max, term⟩ →
      R (term.exactLanguage globals G) (term.language globals H)
  | .element declaration, _, _, _ => by
    rw [Term.language, Term.exactLanguage]
    exact hR.refl _
  | .elementRef name, _, _, _ => by
    rw [Term.language, Term.exactLanguage]
    exact hR.refl _
  | .wildcard wildcard, _, _, _ => by
    rw [Term.language, Term.exactLanguage]
    exact hR.refl _
  | .sequence items, _, _, h => by
    rw [Term.language, Term.exactLanguage]
    exact hR.prod (relate_items hR items fun q hq => hR.closed _ q h hq)
  | .choice items, _, _, h => by
    rw [Term.language, Term.exactLanguage]
    exact hR.sum (relate_items hR items fun q hq => hR.closed _ q h hq)
  | .all items, min, max, h => by
    rw [Term.language, Term.exactLanguage]
    exact hR.all min max items h (relate_terms hR items fun q hq => hR.closed _ q h hq)
  | .groupRef name, _, _, h => by
    rw [Term.language, Term.exactLanguage]
    exact hR.groups _ name h rfl

theorem relate_items (hR : Relates globals R S G H) :
    ∀ items : List (Particle ElementDecl), (∀ q ∈ items, S q) →
    List.Forall₂ R (Particle.exactLanguages globals G items) (Particle.languages globals H items)
  | [], _ => .nil
  | p :: ps, h => .cons (relate_particle hR p (h p (by simp)))
      (relate_items hR ps fun q hq => h q (by simp [hq]))

theorem relate_terms (hR : Relates globals R S G H) :
    ∀ items : List (Particle ElementDecl), (∀ q ∈ items, S q) →
    ∀ m ∈ items, R (m.term.exactLanguage globals G) (m.term.language globals H)
  | [], _, _, hm => by simp at hm
  | ⟨min, max, term⟩ :: ps, h, m, hm => by
    rcases List.mem_cons.1 hm with rfl | hm
    · exact relate_term hR term min max (h _ (by simp))
    · exact relate_terms hR ps (fun q hq => h q (by simp [hq])) m hm

end

end Relate

/-! ## Expansion -/

theorem repetitions_mono {K L : Language QName} {min min' : Nat} {max max' : Option Nat}
    (hKL : K ≤ L) (hmin : min' ≤ min) (hmax : ∀ n' ∈ max', ∃ n ∈ max, n ≤ n') :
    repetitions K min max ≤ repetitions L min' max' := by
  rintro w ⟨k, hk, hbound, hw⟩
  refine ⟨k, hmin.trans hk, fun n' hn' => ?_, pow_le_pow_left' hKL k hw⟩
  obtain ⟨n, hn, hle⟩ := hmax n' hn'
  exact (hbound n hn).trans hle

/-- At most one repetition. -/
theorem mem_repetitions_one {L : Language QName} {min : Nat} {w : List QName} (hmin : min ≤ 1) :
    w ∈ repetitions L min (some 1) ↔ w ∈ L ∨ (min = 0 ∧ w = []) := by
  constructor
  · rintro ⟨k, hk, hbound, hw⟩
    have hbound := hbound 1 rfl
    obtain rfl | rfl : k = 0 ∨ k = 1 := by omega
    · exact .inr ⟨Nat.le_zero.1 hk, by simpa using hw⟩
    · exact .inl (by simpa using hw)
  · rintro (hw | ⟨rfl, rfl⟩)
    · exact ⟨1, hmin, by simp, by simpa using hw⟩
    · exact ⟨0, le_rfl, by simp, by simp⟩

/-- The bounds of an expansion allow all that the bounds themselves allow. -/
theorem repetitions_le_expanded {K L : Language QName} (min : Nat) (max : MaxOccurs)
    (hKL : K ≤ L) : repetitions K min max.bound? ≤
      repetitions L (Nat.min min expandedMin) (max.expanded? (Nat.min min expandedMin)) := by
  refine repetitions_mono hKL (Nat.min_le_left _ _) ?_
  cases max with
  | unbounded => simp [MaxOccurs.expanded?]
  | bounded n =>
    intro n' hn'
    simp only [MaxOccurs.expanded?, Option.mem_def, Option.ite_none_right_eq_some,
      Option.some.injEq] at hn'
    exact ⟨n, rfl, hn'.2 ▸ Nat.le_max_left _ _⟩

/-- Small bounds are those of the expansion. -/
theorem expanded_le_repetitions {K L : Language QName} {min : Nat} {max : MaxOccurs}
    (hmin : min ≤ 64) (hmax : ∀ n, max = .bounded n → min ≤ n ∧ n ≤ 128) (hKL : K ≤ L) :
    repetitions K (Nat.min min expandedMin) (max.expanded? (Nat.min min expandedMin)) ≤
      repetitions L min max.bound? := by
  have min_eq : Nat.min min expandedMin = min := Nat.min_eq_left hmin
  rw [min_eq]
  refine repetitions_mono hKL le_rfl ?_
  cases max with
  | unbounded => simp [MaxOccurs.bound?]
  | bounded n =>
    obtain ⟨hn, hle⟩ := hmax n rfl
    intro n' hn'
    obtain rfl : n = n' := by simpa [MaxOccurs.bound?] using hn'
    refine ⟨n, ?_, le_rfl⟩
    have hmax : Nat.max n min = n := Nat.max_eq_left hn
    simp [MaxOccurs.expanded?, expandedMax, hle, hmax]

theorem anyOrder_le_kstar {Ls : List (Language QName)} {K : Language QName}
    (h : ∀ L ∈ Ls, L ≤ K∗) : anyOrder Ls ≤ K∗ := by
  rintro w ⟨order, perm, hw⟩
  replace h : ∀ L ∈ order, L ≤ K∗ := fun L hL => h L (perm.subset hL)
  refine (?_ : order.prod ≤ K∗) hw
  clear perm hw
  induction order with
  | nil => exact one_le_kstar
  | cons L order ih =>
    rw [List.prod_cons, ← kstar_mul_kstar K]
    exact mul_le_mul' (h L (by simp)) (ih fun L hL => h L (by simp [hL]))

theorem Particle.le_sum_termLanguages {globals : Globals} {H : QName → Language QName}
    {items : List (Particle ElementDecl)} {m : Particle ElementDecl} (hm : m ∈ items) :
    m.term.language globals H ≤ (Particle.termLanguages globals H items).sum := by
  induction items with
  | nil => simp at hm
  | cons q items ih =>
    obtain ⟨min, max, term⟩ := q
    rw [Particle.termLanguages, List.sum_cons]
    rcases List.mem_cons.1 hm with rfl | hm
    · exact le_sup_left
    · exact (ih hm).trans le_sup_right

theorem Particle.exactLanguages_eq_map (globals : Globals) (G : QName → Language QName)
    (items : List (Particle ElementDecl)) :
    Particle.exactLanguages globals G items = items.map (Particle.exactLanguage globals G) := by
  induction items with
  | nil => rfl
  | cons q items ih => rw [Particle.exactLanguages, ih, List.map_cons]

/-- Members of an `all` group in any order are members any number of times. -/
theorem anyOrder_exactLanguages_le {globals : Globals} {G H : QName → Language QName}
    {items : List (Particle ElementDecl)}
    (h : ∀ m ∈ items, m.term.exactLanguage globals G ≤ m.term.language globals H) :
    anyOrder (Particle.exactLanguages globals G items) ≤
      (Particle.termLanguages globals H items).sum∗ := by
  refine anyOrder_le_kstar fun L hL => ?_
  rw [Particle.exactLanguages_eq_map, List.mem_map] at hL
  obtain ⟨⟨min, max, term⟩, hm, rfl⟩ := hL
  have hterm := (h _ hm).trans (Particle.le_sum_termLanguages hm)
  rw [Particle.exactLanguage]
  calc repetitions (term.exactLanguage globals G) min max.bound?
      ≤ repetitions (Particle.termLanguages globals H items).sum 0 none :=
        repetitions_mono hterm (Nat.zero_le _) (by simp)
    _ = _ := repetitions_none _

namespace Globals

variable {globals : Globals} {p : Particle ElementDecl} {w : List QName}

/-- References to model groups lead to groups, and are nested at most so deep. -/
def Resolves (globals : Globals) (levels : Nat) (p : Particle ElementDecl) : Prop :=
  ∀ n q name, globals.Nested p n q → q.term = .groupRef name →
    n + 1 ≤ levels ∧ (globals.group? name).isSome

theorem Resolves.of_mem {levels : Nat} {q : Particle ElementDecl} (h : globals.Resolves levels p)
    (hq : q ∈ p.term.members) : globals.Resolves levels q :=
  fun n r name nested => h n r name (.member hq nested)

theorem Resolves.of_group {levels : Nat} {q : Particle ElementDecl} {name : QName}
    (h : globals.Resolves (levels + 1) p) (ref : p.term = .groupRef name)
    (found : globals.group? name = some q) : globals.Resolves levels q :=
  fun n r name nested hr =>
    (h (n + 1) r name (.group ref found nested) hr).imp_left Nat.le_of_succ_le_succ

theorem Resolves.exists_group {levels : Nat} {name : QName} (h : globals.Resolves levels p)
    (ref : p.term = .groupRef name) :
    ∃ levels' q, levels = levels' + 1 ∧ globals.group? name = some q ∧
      globals.Resolves levels' q := by
  obtain ⟨hlevels, hsome⟩ := h 0 p name (.refl p) ref
  obtain ⟨levels', rfl⟩ := Nat.exists_eq_add_of_le' hlevels
  obtain ⟨q, found⟩ := Option.isSome_iff_exists.1 hsome
  exact ⟨levels', q, rfl, found, h.of_group ref found⟩

/-- Expansion loses no words, as long as references are followed to their end. -/
theorem exactLanguage_le_language (levels depth : Nat) (p : Particle ElementDecl)
    (h : globals.Resolves levels p) :
    p.exactLanguage globals (globals.exactGroup depth) ≤
      p.language globals (globals.groupLanguage levels) := by
  -- along the particle by `relate_particle`; a reference may lead to a larger particle, but takes
  -- up one of the levels
  induction levels using Nat.strong_induction_on generalizing p depth with
  | _ levels ih =>
    refine relate_particle (S := globals.Resolves levels)
      { toCongruent := congruent_le
        closed := fun _ _ hq => hq.of_mem
        occurs := fun q _ _ _ => repetitions_le_expanded q.min q.max
        all := fun _ _ _ _ => anyOrder_exactLanguages_le
        groups := fun q name hq ref => ?_ } p h
    obtain ⟨levels, r, rfl, found, hr⟩ := hq.exists_group ref
    cases depth with
    | zero => exact bot_le
    | succ depth =>
      rw [exactGroup, groupLanguage, found]
      exact ih levels (Nat.lt_succ_self _) depth r hr

/-- There is nothing in a particle that expansion changes. -/
def Plain (globals : Globals) (p : Particle ElementDecl) : Prop :=
  ∀ n q, globals.Nested p n q → q.min ≤ 64 ∧
    (∀ max, q.max = .bounded max → q.min ≤ max ∧ max ≤ 128) ∧ ∀ items, q.term ≠ .all items

theorem Plain.of_mem {q : Particle ElementDecl} (h : globals.Plain p) (hq : q ∈ p.term.members) :
    globals.Plain q :=
  fun n r nested => h n r (.member hq nested)

theorem Plain.of_group {q : Particle ElementDecl} {name : QName} (h : globals.Plain p)
    (ref : p.term = .groupRef name) (found : globals.group? name = some q) : globals.Plain q :=
  fun n r nested => h (n + 1) r (.group ref found nested)

/-- Expansion adds no words to a particle that it does not change. -/
theorem language_le_exactLanguage (levels : Nat) (p : Particle ElementDecl)
    (h : globals.Resolves levels p) (plain : globals.Plain p) :
    p.language globals (globals.groupLanguage levels) ≤
      p.exactLanguage globals (globals.exactGroup levels) := by
  induction levels using Nat.strong_induction_on generalizing p with
  | _ levels ih =>
    refine relate_particle (S := fun q => globals.Resolves levels q ∧ globals.Plain q)
      { toCongruent := congruent_ge
        closed := fun _ _ hq mem => ⟨hq.1.of_mem mem, hq.2.of_mem mem⟩
        occurs := fun q K L hq => ?_
        all := fun min max items hq => ?_
        groups := fun q name hq ref => ?_ } p ⟨h, plain⟩
    · obtain ⟨hmin, hmax, -⟩ := hq.2 0 q (.refl q)
      exact expanded_le_repetitions hmin hmax
    · exact absurd rfl ((hq.2 0 _ (.refl _)).2.2 items)
    · obtain ⟨levels, r, rfl, found, hr⟩ := hq.1.exists_group ref
      rw [exactGroup, groupLanguage, found]
      exact ih levels (Nat.lt_succ_self _) r hr (hq.2.of_group ref found)

/-! ## Groups at the top -/

theorem RefersTo.nested {q : Particle ElementDecl} (h : globals.RefersTo p q) :
    ∃ n, globals.Nested p n q := by
  induction h with
  | refl p => exact ⟨0, .refl p⟩
  | ref ref found _ ih =>
    obtain ⟨n, nested⟩ := ih
    exact ⟨n + 1, .group ref found nested⟩

theorem Nested.of_mem {n : Nat} {q r : Particle ElementDecl} (h : globals.Nested p n q)
    (mem : r ∈ q.term.members) : globals.Nested p n r := by
  induction h with
  | refl p => exact .member mem (.refl r)
  | member mem' _ ih => exact .member mem' (ih mem)
  | group ref found _ ih => exact .group ref found (ih mem)

theorem topLevelAll?_isSome {levels : Nat} {q : Particle ElementDecl}
    {items : List (Particle ElementDecl)} (h : globals.RefersTo p q) (hq : q.term = .all items)
    (resolves : globals.Resolves levels p) : (globals.topLevelAll? levels p).isSome := by
  induction h generalizing levels with
  | refl p =>
    obtain ⟨min, max, term⟩ := p
    obtain rfl : term = .all items := hq
    simp [topLevelAll?]
  | @ref p q r name ref found rest ih =>
    obtain ⟨levels, q', rfl, found', resolves⟩ := resolves.exists_group ref
    obtain rfl : q = q' := Option.some.inj (found.symm.trans found')
    obtain ⟨⟨members, isOptional⟩, top⟩ := Option.isSome_iff_exists.1 (ih hq resolves)
    obtain ⟨min, max, term⟩ := p
    obtain rfl : term = .groupRef name := ref
    simp [topLevelAll?, found, top]

theorem refersTo_of_topLevelAll? {levels : Nat} {items : List (Particle ElementDecl)}
    {isOptional : Bool} (top : globals.topLevelAll? levels p = some (items, isOptional)) :
    ∃ q, globals.RefersTo p q ∧ q.term = .all items := by
  fun_induction topLevelAll? globals levels p generalizing isOptional with
  | case1 levels min max items' =>
    obtain ⟨rfl, -⟩ : items' = items ∧ (min == 0) = isOptional := by simpa using top
    exact ⟨_, .refl _, rfl⟩
  | case2 levels min max name ih =>
    simp only [Option.bind_eq_bind, Option.bind_eq_some_iff] at top
    obtain ⟨q, found, ⟨members, isOptional'⟩, top, heq⟩ := top
    obtain ⟨rfl, -⟩ : members = items ∧ _ := by simpa using heq
    obtain ⟨r, refers, hr⟩ := ih q top
    exact ⟨r, .ref rfl found refers, hr⟩
  | case3 => simp at top

theorem exists_mem_exactGroup {name : QName} {q : Particle ElementDecl}
    (found : globals.group? name = some q) :
    (∃ depth, w ∈ globals.exactGroup depth name) ↔ w ∈ globals.exactLanguage q := by
  constructor
  · rintro ⟨depth, hw⟩
    cases depth with
    | zero => exact absurd hw (Language.notMem_zero w)
    | succ depth =>
      rw [exactGroup, found] at hw
      exact ⟨depth, hw⟩
  · rintro ⟨depth, hw⟩
    refine ⟨depth + 1, ?_⟩
    rw [exactGroup, found]
    exact hw

/-- A particle that is an `all` group at the top stands for the arrangements of the members, and
for nothing at all if it may be left out. -/
theorem mem_exactLanguage_of_topLevelAll? {levels : Nat} {items : List (Particle ElementDecl)}
    {isOptional : Bool} {L : Language QName}
    (top : globals.topLevelAll? levels p = some (items, isOptional))
    (once : ∀ q r, globals.RefersTo p q → globals.RefersTo q r → r.term = .all items →
      q.max = .bounded 1 ∧ q.min ≤ 1)
    (members : ∀ depth,
      anyOrder (Particle.exactLanguages globals (globals.exactGroup depth) items) = L) :
    w ∈ globals.exactLanguage p ↔ w ∈ L ∨ (isOptional = true ∧ w = []) := by
  fun_induction topLevelAll? globals levels p generalizing isOptional with
  | case1 levels min max items' =>
    obtain ⟨rfl, rfl⟩ : items' = items ∧ (min == 0) = isOptional := by simpa using top
    obtain ⟨rfl, hmin⟩ : max = .bounded 1 ∧ min ≤ 1 := once _ _ (.refl _) (.refl _) rfl
    have each (depth : Nat) :
        w ∈ Particle.exactLanguage globals (globals.exactGroup depth)
            ⟨min, .bounded 1, .all items'⟩ ↔
          w ∈ L ∨ (min = 0 ∧ w = []) := by
      rw [Particle.exactLanguage, Term.exactLanguage, members depth]
      exact mem_repetitions_one hmin
    rw [beq_iff_eq]
    exact ⟨fun ⟨depth, hw⟩ => (each depth).1 hw, fun hw => ⟨0, (each 0).2 hw⟩⟩
  | case2 levels min max name ih =>
    simp only [Option.bind_eq_bind, Option.bind_eq_some_iff] at top
    obtain ⟨q, found, ⟨members', isOptional'⟩, top, heq⟩ := top
    obtain ⟨rfl, rfl⟩ : members' = items ∧ (isOptional' || min == 0) = isOptional := by
      simpa using heq
    obtain ⟨r, refers, hr⟩ := refersTo_of_topLevelAll? top
    obtain ⟨rfl, hmin⟩ : max = .bounded 1 ∧ min ≤ 1 :=
      once _ r (.refl _) (.ref rfl found refers) hr
    have each (depth : Nat) :
        w ∈ Particle.exactLanguage globals (globals.exactGroup depth)
            ⟨min, .bounded 1, .groupRef name⟩ ↔
          w ∈ globals.exactGroup depth name ∨ (min = 0 ∧ w = []) := by
      rw [Particle.exactLanguage, Term.exactLanguage]
      exact mem_repetitions_one hmin
    -- the group may be left out where it is defined or where it is referred to
    have inner : w ∈ globals.exactLanguage q ↔ w ∈ L ∨ (isOptional' = true ∧ w = []) :=
      ih q top fun q' r hq' => once q' r (.ref rfl found hq')
    calc w ∈ globals.exactLanguage _
        ↔ ∃ depth, w ∈ globals.exactGroup depth name ∨ (min = 0 ∧ w = []) := exists_congr each
      _ ↔ w ∈ globals.exactLanguage q ∨ (min = 0 ∧ w = []) := by
          rw [exists_or, exists_mem_exactGroup found, exists_const]
      _ ↔ w ∈ L ∨ ((isOptional' || min == 0) = true ∧ w = []) := by
          rw [inner, Bool.or_eq_true, beq_iff_eq]
          tauto
  | case3 => simp at top

end Globals

/-! ## Arrangements -/

namespace AllMember

/-- The words of a member: its name, and nothing if it is not required. -/
def language (m : AllMember) : Language QName :=
  {w : List QName | w = [m.1.name] ∨ (m.2 = false ∧ w = [])}

variable {m : AllMember} {ms : List AllMember} {w : List QName}

theorem mem_language : w ∈ m.language ↔ w = [m.1.name] ∨ (m.2 = false ∧ w = []) := Iff.rfl

/-- One word of each member in turn: some of the names, in the same order, with all required
ones. -/
theorem mem_prod_language (distinct : (ms.map (·.1.name)).Nodup) :
    w ∈ (ms.map language).prod ↔
      w.Sublist (ms.map (·.1.name)) ∧ ∀ m ∈ ms, m.2 = true → m.1.name ∈ w := by
  induction ms generalizing w with
  | nil => simp
  | cons m ms ih =>
    rw [List.map_cons, List.nodup_cons] at distinct
    rw [List.map_cons, List.prod_cons, Language.mem_mul, List.map_cons]
    simp only [mem_language, ih distinct.2]
    constructor
    · rintro ⟨u, rfl | ⟨optional, rfl⟩, v, ⟨hv, required⟩, rfl⟩
      · refine ⟨hv.cons_cons _, fun m' hm' hrequired => ?_⟩
        rcases List.mem_cons.1 hm' with rfl | hm'
        · simp
        · simp [required m' hm' hrequired]
      · refine ⟨hv.cons _, fun m' hm' hrequired => ?_⟩
        rcases List.mem_cons.1 hm' with rfl | hm'
        · simp [optional] at hrequired
        · exact required m' hm' hrequired
    · rintro ⟨hw, required⟩
      cases hw with
      | cons _ hw =>
        have absent : m.1.name ∉ w := fun h => distinct.1 (hw.subset h)
        have optional : m.2 = false := by
          by_contra h
          exact absent (required m (by simp) (by simpa using h))
        exact ⟨[], .inr ⟨optional, rfl⟩, w, ⟨hw, fun m' hm' => required m' (by simp [hm'])⟩, rfl⟩
      | cons_cons _ hw =>
        refine ⟨[m.1.name], .inl rfl, _, ⟨hw, fun m' hm' hrequired => ?_⟩, rfl⟩
        refine (List.mem_cons.1 (required m' (by simp [hm']) hrequired)).resolve_left fun heq => ?_
        exact distinct.1 (heq ▸ List.mem_map_of_mem hm')

theorem exists_perm_of_perm_map {α β : Type} {f : α → β} {xs : List α} {ys : List β}
    (h : ys.Perm (xs.map f)) : ∃ xs' : List α, xs'.Perm xs ∧ xs'.map f = ys := by
  obtain ⟨xs', related, perm⟩ := List.perm_comp_forall₂ (r := fun y x => f x = y) h
    (by rw [List.forall₂_map_left_iff]; exact List.forall₂_same.2 fun _ _ => rfl)
  refine ⟨xs', perm, ?_⟩
  clear perm h
  induction related with
  | nil => rfl
  | cons head _ ih => rw [List.map_cons, head, ih]

/-- The arrangements of members with different names: no name twice, and no required one
missing. -/
theorem mem_anyOrder_language (distinct : (ms.map (·.1.name)).Nodup) :
    w ∈ anyOrder (ms.map language) ↔
      w.Nodup ∧ w ⊆ ms.map (·.1.name) ∧ ∀ m ∈ ms, m.2 = true → m.1.name ∈ w := by
  constructor
  · rintro ⟨order, hperm, hw⟩
    obtain ⟨ms', perm, rfl⟩ := exists_perm_of_perm_map hperm
    have names := perm.map (·.1.name)
    obtain ⟨sublist, required⟩ := (mem_prod_language (names.nodup_iff.2 distinct)).1 hw
    exact ⟨(names.nodup_iff.2 distinct).sublist sublist,
      fun name h => names.subset (sublist.subset h), fun m hm => required m (perm.mem_iff.2 hm)⟩
  · rintro ⟨nodup, present, required⟩
    obtain ⟨names, hperm, sublist⟩ := List.subperm_iff.1 (List.subperm_of_subset nodup present)
    obtain ⟨ms', perm, rfl⟩ := exists_perm_of_perm_map hperm
    have distinct' := (perm.map (·.1.name)).nodup_iff.2 distinct
    exact ⟨_, perm.map _, (mem_prod_language distinct').2
      ⟨sublist, fun m hm => required m (perm.mem_iff.1 hm)⟩⟩

end AllMember

namespace Globals

variable {globals : Globals} {p : Particle ElementDecl} {w : List QName}

/-- The members of an `all` group of elements. -/
def allMembers (globals : Globals) (items : List (Particle ElementDecl)) : List AllMember :=
  items.filterMap fun m => (globals.declaration? m.term).map (·, decide (0 < m.min))

theorem leaves_allMembers {items : List (Particle ElementDecl)}
    (elements : ∀ m ∈ items, (globals.declaration? m.term).isSome) :
    (items.filterMap fun m => (globals.leaf? m.term).map (·, decide (0 < m.min))) =
      (globals.allMembers items).map AllMember.toLeaf := by
  rw [allMembers, List.map_filterMap]
  refine List.filterMap_congr fun m hm => ?_
  have helement := elements m hm
  cases hterm : m.term <;> simp [hterm, declaration?] at helement
  · rfl
  · rfl

theorem names_allMembers (items : List (Particle ElementDecl)) :
    (globals.allMembers items).map (·.1.name) =
      (items.filterMap (globals.declaration? ·.term)).map (·.name) := by
  rw [allMembers, List.map_filterMap, List.map_filterMap]
  exact List.filterMap_congr fun m _ => by cases globals.declaration? m.term <;> rfl

theorem exactLanguage_allMember {G : QName → Language QName} {m : Particle ElementDecl}
    {declaration : ElementDecl} (hmax : m.max = .bounded 1) (hmin : m.min ≤ 1)
    (element : globals.declaration? m.term = some declaration) :
    m.exactLanguage globals G = AllMember.language (declaration, decide (0 < m.min)) := by
  obtain ⟨min, max, term⟩ := m
  obtain rfl : max = .bounded 1 := hmax
  have hterm : term.exactLanguage globals G = {[declaration.name]} := by
    cases term <;> simp [declaration?] at element
    · rw [Term.exactLanguage, element]
    · rw [Term.exactLanguage, element]
  ext w
  rw [Particle.exactLanguage, hterm, AllMember.mem_language, decide_eq_false_iff_not, Nat.not_lt,
    Nat.le_zero]
  exact mem_repetitions_one hmin

theorem exactLanguages_allMembers {G : QName → Language QName}
    {items : List (Particle ElementDecl)}
    (elements : ∀ m ∈ items, m.max = .bounded 1 ∧ (globals.declaration? m.term).isSome)
    (hmin : ∀ m ∈ items, m.min ≤ 1) :
    Particle.exactLanguages globals G items =
      (globals.allMembers items).map AllMember.language := by
  induction items with
  | nil => rfl
  | cons m items ih =>
    obtain ⟨hmax, helement⟩ := elements m (by simp)
    obtain ⟨declaration, hdeclaration⟩ := Option.isSome_iff_exists.1 helement
    have rest := ih (fun m' hm' => elements m' (by simp [hm']))
      fun m' hm' => hmin m' (by simp [hm'])
    rw [Particle.exactLanguages, rest,
      exactLanguage_allMember hmax (hmin m (by simp)) hdeclaration]
    simp [allMembers, hdeclaration]

/-- The matcher of an `all` group at the top accepts exactly what the group stands for. -/
theorem Disciplined.accepts_iff_of_topLevelAll? (h : globals.Disciplined p)
    {items : List (Particle ElementDecl)} {isOptional : Bool}
    (top : globals.topLevelAll? groupDepth p = some (items, isOptional)) :
    (ContentMatcher.ofParticle globals p).Accepts w ↔ w ∈ globals.exactLanguage p := by
  obtain ⟨q, refers, hq⟩ := refersTo_of_topLevelAll? top
  obtain ⟨n, nested⟩ := refers.nested
  have elements := h.all_members n q items nested hq
  have hmin (m : Particle ElementDecl) (hm : m ∈ items) : m.min ≤ 1 :=
    h.min_le_max n m 1 (nested.of_mem (by rwa [hq])) (elements m hm).1
  have distinct := h.all_distinct n q items nested hq
  rw [← names_allMembers] at distinct
  have once (r s : Particle ElementDecl) (hr : globals.RefersTo p r) (hs : globals.RefersTo r s)
      (hall : s.term = .all items) : r.max = .bounded 1 ∧ r.min ≤ 1 := by
    obtain ⟨n, nested⟩ := hr.nested
    have hmax := h.top_once r s items hr hs hall
    exact ⟨hmax, h.min_le_max n r 1 nested hmax⟩
  have members (depth : Nat) := congrArg anyOrder
    (exactLanguages_allMembers (G := globals.exactGroup depth) elements hmin)
  rw [mem_exactLanguage_of_topLevelAll? top once members, AllMember.mem_anyOrder_language distinct,
    ← ContentMatcher.accepts_all_iff distinct, ← leaves_allMembers fun m hm => (elements m hm).2]
  unfold ContentMatcher.ofParticle CompiledModel.ofParticle
  rw [top]

theorem ofParticle_of_topLevelAll?_eq_none (top : globals.topLevelAll? groupDepth p = none) :
    ContentMatcher.ofParticle globals p = .ofModel (.automaton (globals.automaton p)) := by
  unfold ContentMatcher.ofParticle CompiledModel.ofParticle
  rw [top]

theorem WithinLimits.plain (limits : globals.WithinLimits p) (h : globals.Disciplined p)
    (top : globals.topLevelAll? groupDepth p = none) : globals.Plain p := by
  intro n q nested
  refine ⟨limits.min_le n q nested, fun max hmax => ?_, fun items hq => ?_⟩
  · exact ⟨h.min_le_max n q max nested hmax, limits.max_le n q max nested hmax⟩
  · -- an `all` group could only be at the top, and would have been found there
    have := topLevelAll?_isSome (limits.all_on_top n q items nested hq) hq h.resolves
    rw [groupDepth] at top
    simp [top] at this

/-- The matcher of a particle accepts every word that the particle stands for, and no others if the
bounds of the particle are small and it has no `all` groups but at its top. -/
theorem accepts_of_mem_exactLanguage (globals : Globals) (p : Particle ElementDecl)
    (h : globals.Disciplined p) (w : List QName) :
    (w ∈ globals.exactLanguage p → (ContentMatcher.ofParticle globals p).Accepts w) ∧
      (globals.WithinLimits p →
        ((ContentMatcher.ofParticle globals p).Accepts w ↔ w ∈ globals.exactLanguage p)) := by
  cases top : globals.topLevelAll? groupDepth p with
  | some all =>
    obtain ⟨items, isOptional⟩ := all
    have accepts_iff := h.accepts_iff_of_topLevelAll? (w := w) top
    exact ⟨accepts_iff.2, fun _ => accepts_iff⟩
  | none =>
    rw [ofParticle_of_topLevelAll?_eq_none top]
    have accepts : w ∈ globals.exactLanguage p →
        (ContentMatcher.ofModel (.automaton (globals.automaton p))).Accepts w := by
      rintro ⟨depth, hw⟩
      exact accepts_of_mem_language (fun n _ q wildcard => h.no_wildcard n q wildcard)
        (exactLanguage_le_language 16 depth p h.resolves hw)
    refine ⟨accepts, fun limits => ⟨fun hw => ⟨16, ?_⟩, accepts⟩⟩
    exact language_le_exactLanguage 16 p h.resolves (limits.plain h top)
      (mem_language_of_accepts hw)

/-- An optional reference to an `all` group of an element and an optional one. -/
theorem accepts_of_mem_exactLanguage_group :
    let a : Particle ElementDecl := ⟨1, .bounded 1, .elementRef ⟨"", "a"⟩⟩
    let b : Particle ElementDecl := ⟨0, .bounded 1, .elementRef ⟨"", "b"⟩⟩
    let globals : Globals := ⟨fun _ => none, fun _ => some ⟨1, .bounded 1, .all [a, b]⟩⟩
    let p : Particle ElementDecl := ⟨0, .bounded 1, .groupRef ⟨"", "g"⟩⟩
    globals.Disciplined p ∧ globals.WithinLimits p ∧
      ∀ w, (ContentMatcher.ofParticle globals p).Accepts w ↔ w ∈ globals.exactLanguage p := by
  intro a b globals p
  have nested_cases (n : Nat) (q : Particle ElementDecl) (nested : globals.Nested p n q) :
      (n = 0 ∧ q = p) ∨ q = ⟨1, .bounded 1, .all [a, b]⟩ ∨ q = a ∨ q = b := by
    cases nested with
    | refl => exact .inl ⟨rfl, rfl⟩
    | member mem _ => simp [p, Term.members] at mem
    | group _ found rest =>
      obtain rfl := Option.some.inj found
      cases rest with
      | refl => exact .inr (.inl rfl)
      | group ref _ _ => simp at ref
      | member mem rest =>
        simp only [Term.members, List.mem_cons, List.not_mem_nil, or_false] at mem
        rcases mem with rfl | rfl <;> cases rest with
        | refl => simp
        | member mem _ => simp [a, b, Term.members] at mem
        | group ref _ _ => simp [a, b] at ref
  have all_cases (n : Nat) (q : Particle ElementDecl) (items : List (Particle ElementDecl))
      (nested : globals.Nested p n q) (h : q.term = .all items) :
      items = [a, b] ∧ globals.RefersTo p q := by
    rcases nested_cases n q nested with ⟨-, rfl⟩ | rfl | rfl | rfl
    · simp [p] at h
    · exact ⟨(Term.all.inj h).symm, .ref rfl rfl (.refl _)⟩
    · simp [a] at h
    · simp [b] at h
  have disciplined : globals.Disciplined p := by
    constructor
    · intro n q wildcard nested
      rcases nested_cases n q nested with ⟨-, rfl⟩ | rfl | rfl | rfl <;> simp [p, a, b]
    · intro n q max nested h
      rcases nested_cases n q nested with ⟨-, rfl⟩ | rfl | rfl | rfl <;> cases h <;> decide
    · intro n q name nested h
      rcases nested_cases n q nested with ⟨rfl, rfl⟩ | rfl | rfl | rfl
      · exact ⟨by decide, rfl⟩
      all_goals simp [a, b] at h
    · intro n q items nested h
      obtain ⟨rfl, -⟩ := all_cases n q items nested h
      simp [a, b, declaration?]
    · intro n q items nested h
      obtain ⟨rfl, -⟩ := all_cases n q items nested h
      decide
    · intro q r items refers _ _
      obtain ⟨n, nested⟩ := refers.nested
      rcases nested_cases n q nested with ⟨-, rfl⟩ | rfl | rfl | rfl <;> rfl
  have limits : globals.WithinLimits p := by
    constructor
    · intro n q nested
      rcases nested_cases n q nested with ⟨-, rfl⟩ | rfl | rfl | rfl <;> decide
    · intro n q max nested h
      rcases nested_cases n q nested with ⟨-, rfl⟩ | rfl | rfl | rfl <;> cases h <;> decide
    · exact fun n q items nested h => (all_cases n q items nested h).2
  refine ⟨disciplined, limits, fun w => ?_⟩
  exact (accepts_of_mem_exactLanguage globals p disciplined w).2 limits

end Globals

end XmlSchema

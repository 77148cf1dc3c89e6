import Mathlib.Data.List.Induction
import XmlSchema.Proofs.SchemaSet.Lookups

/-!
# The attributes of a type

A type lists attributes, refers to groups of attributes, and takes over the attributes of its base.
Written out in one row (`SchemaSet.occurrences`), a name can occur many times, and then the last
occurrence alone counts.  `SchemaSet.LastWins` says this of a list of attributes: which names are in
it, what each of them is declared to be, and in which order they come.

`SchemaSet.flatten` never has the row as a whole.  It passes a list from the base to the type and
through nested groups, and each use that it meets removes the earlier one
(`SchemaSet.attributes_flattenWithin`).  The main statement says that the outcome is the same
(`SchemaSet.effectiveType_lastWins`).
-/

namespace XmlSchema

/-! ## Occurrences -/

/-- An attribute use as it is written in the list of a type or of a group. -/
structure AttributeOccurrence where
  declaration : AttributeDecl
  usage : AttributeUsage
  byRef : Bool

namespace AttributeOccurrence

/-- The name of the attribute. -/
def name (o : AttributeOccurrence) : QName := o.declaration.name

/-- The occurrence is the last one in the row that has its name. -/
def IsLast (o : AttributeOccurrence) (row : List AttributeOccurrence) : Prop :=
  ∃ before after, row = before ++ o :: after ∧ ∀ p ∈ after, p.name ≠ o.name

/-- Behind the last occurrence of the first name in the row there is one of the second. -/
def EndsBefore (row : List AttributeOccurrence) (first second : QName) : Prop :=
  ∃ before after, row = before ++ after ∧ (∃ o ∈ before, o.name = first) ∧
    (∀ o ∈ after, o.name ≠ first) ∧ ∃ o ∈ after, o.name = second

variable {row : List AttributeOccurrence} {o p : AttributeOccurrence} {first second : QName}

theorem IsLast.mem (h : o.IsLast row) : o ∈ row := by
  obtain ⟨before, after, rfl, -⟩ := h
  simp

theorem not_isLast_nil : ¬ o.IsLast [] := fun h => by simpa using h.mem

/-- A new occurrence is the last with its name, and changes nothing for other names. -/
theorem isLast_append_singleton :
    p.IsLast (row ++ [o]) ↔ p = o ∨ (p.IsLast row ∧ p.name ≠ o.name) := by
  constructor
  · rintro ⟨before, after, split, later⟩
    rcases List.eq_nil_or_concat after with rfl | ⟨after, q, rfl⟩
    · have last := (List.append_inj' split rfl).2
      exact .inl (List.singleton_inj.1 last).symm
    · have regroup : before ++ p :: (after ++ [q]) = (before ++ p :: after) ++ [q] := by simp
      rw [List.concat_eq_append, regroup] at split
      obtain ⟨rfl, last⟩ := List.append_inj' split rfl
      obtain rfl := List.singleton_inj.1 last
      simp only [List.concat_eq_append, List.mem_append, List.mem_singleton] at later
      have ne : p.name ≠ o.name := (later o (.inr rfl)).symm
      exact .inr ⟨⟨before, after, rfl, fun r hr => later r (.inl hr)⟩, ne⟩
  · rintro (rfl | ⟨⟨before, after, rfl, later⟩, ne⟩)
    · exact ⟨row, [], rfl, by simp⟩
    · refine ⟨before, after ++ [o], by simp, fun r hr => ?_⟩
      rcases List.mem_append.1 hr with hr | hr
      · exact later r hr
      · rw [List.mem_singleton.1 hr]
        exact ne.symm

theorem EndsBefore.append_singleton (h : EndsBefore row first second) (ne : first ≠ o.name) :
    EndsBefore (row ++ [o]) first second := by
  obtain ⟨before, after, rfl, there, later, behind⟩ := h
  refine ⟨before, after ++ [o], by simp, there, ?_, ?_⟩
  · intro r hr
    rcases List.mem_append.1 hr with hr | hr
    · exact later r hr
    · rw [List.mem_singleton.1 hr]
      exact ne.symm
  · obtain ⟨r, hr, name⟩ := behind
    exact ⟨r, List.mem_append_left _ hr, name⟩

theorem endsBefore_new (hp : p ∈ row) (ne : p.name ≠ o.name) :
    EndsBefore (row ++ [o]) p.name o.name := by
  have later : ∀ q ∈ [o], q.name ≠ p.name := by
    intro q hq
    rw [List.mem_singleton.1 hq]
    exact ne.symm
  exact ⟨row, [o], rfl, ⟨p, hp, rfl⟩, later, o, by simp, rfl⟩

end AttributeOccurrence

open AttributeOccurrence

namespace SchemaSet

variable (s : SchemaSet)

/-! ## The row of a type -/

/-- What an item stands for; `group` gives the occurrences of the groups it refers to. -/
def itemOccurrences (group : QName → List AttributeOccurrence) :
    AttributeItem → List AttributeOccurrence
  | .use declaration usage byRef => [⟨declaration, usage, byRef⟩]
  | .groupRef name => group name

/-- The occurrences of an attribute group, when groups may be nested so deep; beyond that, and when
there is no such group, there are none. -/
def groupOccurrences : Nat → QName → List AttributeOccurrence
  | 0, _ => []
  | levels + 1, name =>
    match s.attributeGroup? name with
    | none => []
    | some group => group.attributes.flatMap (itemOccurrences (groupOccurrences levels))

/-- The occurrences that a type lists itself. -/
def ownOccurrences (type : ComplexType) : List AttributeOccurrence :=
  type.attributes.flatMap (itemOccurrences (s.groupOccurrences 32))

/-- The complex type that a type is derived from. -/
def complexBase? (type : ComplexType) : Option ComplexType :=
  match type.base with
  | none => none
  | some (name, _) =>
    match s.resolve (.named name) with
    | some (.complex base) => some base
    | _ => none

/-- The occurrences of a type behind those of its base, when bases are followed for so many
steps. -/
def occurrencesWithin : Nat → ComplexType → List AttributeOccurrence
  | 0, type => s.ownOccurrences type
  | steps + 1, type =>
    ((s.complexBase? type).map (occurrencesWithin steps)).getD [] ++ s.ownOccurrences type

/-- All attributes of a type, in a row: those of its base, then its own.  Bases and groups are
followed 32 deep. -/
def occurrences (type : ComplexType) : List AttributeOccurrence := s.occurrencesWithin 32 type

/-! ## What the row says -/

/-- An occurrence is declared as it says itself.  A reference to a global attribute has the type of
that attribute, and also its default and fixed values where it has none of its own. -/
inductive Declares (o : AttributeOccurrence) : AttributeDecl → Prop where
  | own (h : o.byRef = false ∨ s.attribute? o.name = none) : Declares o o.declaration
  | shared {d : AttributeDecl} (byRef : o.byRef = true) (found : s.attribute? o.name = some d) :
    Declares o
      { name := o.name
        type := d.type
        default := o.declaration.default <|> d.default
        fixed := o.declaration.fixed <|> d.fixed }

variable {s} in
theorem Declares.name_eq {o : AttributeOccurrence} {d : AttributeDecl} (h : s.Declares o d) :
    d.name = o.name := by
  cases h <;> rfl

/-- Of the occurrences of a name, the last decides about the attribute. -/
structure LastWins (row : List AttributeOccurrence) (attributes : List AttributeUse) : Prop where
  distinct : (attributes.map (·.declaration.name)).Nodup
  /-- A name is there unless it does not occur or is prohibited where it occurs last. -/
  present_iff : ∀ name, (∃ a ∈ attributes, a.declaration.name = name) ↔
    ∃ o : AttributeOccurrence, o.IsLast row ∧ o.name = name ∧ o.usage ≠ .prohibited
  required_iff : ∀ a ∈ attributes, ∀ o : AttributeOccurrence, o.IsLast row →
    o.name = a.declaration.name → (a.isRequired = true ↔ o.usage = .required)
  declared : ∀ a ∈ attributes, ∀ o : AttributeOccurrence, o.IsLast row →
    o.name = a.declaration.name → s.Declares o a.declaration
  /-- The attributes come in the order of their last occurrences. -/
  ordered : attributes.Pairwise fun a b => EndsBefore row a.declaration.name b.declaration.name

/-! ## Taking in occurrences -/

/-- The attribute that an occurrence gives, if it is not prohibited. -/
def use? (o : AttributeOccurrence) : Option AttributeUse :=
  match o.usage with
  | .prohibited => none
  | .required => some ⟨s.usedDeclaration o.declaration o.byRef, true⟩
  | .optional => some ⟨s.usedDeclaration o.declaration o.byRef, false⟩

/-- An occurrence takes the place of an attribute with its name. -/
def takeOccurrence (uses : List AttributeUse) (o : AttributeOccurrence) : List AttributeUse :=
  uses.filter (·.declaration.name != o.name) ++ (s.use? o).toList

theorem use?_eq_some_iff {o : AttributeOccurrence} {a : AttributeUse} :
    s.use? o = some a ↔ o.usage ≠ .prohibited ∧
      a = ⟨s.usedDeclaration o.declaration o.byRef, decide (o.usage = .required)⟩ := by
  unfold use?
  cases o.usage <;> simp [eq_comm]

theorem uses_addItem_use (group : QName → Collected → Collected) (c : Collected)
    (declaration : AttributeDecl) (usage : AttributeUsage) (byRef : Bool) :
    (s.addItem group c (.use declaration usage byRef)).uses =
      s.takeOccurrence c.uses ⟨declaration, usage, byRef⟩ := by
  unfold takeOccurrence addItem use?
  cases usage with
  | prohibited => exact (List.append_nil _).symm
  | required | optional => rfl

/-- Items are taken in one occurrence after the other, if groups are. -/
theorem uses_foldl_addItem {group : QName → Collected → Collected}
    {row : QName → List AttributeOccurrence}
    (groups : ∀ name c, (group name c).uses = (row name).foldl s.takeOccurrence c.uses)
    (items : List AttributeItem) (c : Collected) :
    (items.foldl (s.addItem group) c).uses =
      (items.flatMap (itemOccurrences row)).foldl s.takeOccurrence c.uses := by
  induction items generalizing c with
  | nil => rfl
  | cons item items ih =>
    rw [List.foldl_cons, ih, List.flatMap_cons, List.foldl_append]
    congr 1
    cases item with
    | use declaration usage byRef => exact s.uses_addItem_use group c declaration usage byRef
    | groupRef name => exact groups name c

theorem uses_addGroup (levels : Nat) (name : QName) (c : Collected) :
    (s.addGroup levels name c).uses =
      (s.groupOccurrences levels name).foldl s.takeOccurrence c.uses := by
  induction levels generalizing name c with
  | zero => rfl
  | succ levels ih =>
    rw [addGroup, groupOccurrences]
    cases s.attributeGroup? name with
    | none => rfl
    | some group => exact s.uses_foldl_addItem ih group.attributes _

theorem uses_addItems (type : ComplexType) (c : Collected) :
    (s.addItems type.attributes c).uses =
      (s.ownOccurrences type).foldl s.takeOccurrence c.uses :=
  s.uses_foldl_addItem (s.uses_addGroup baseDepth) type.attributes c

/-! ## Bases -/

theorem occurrencesWithin_anyType (steps : Nat) : s.occurrencesWithin steps .anyType = [] := by
  cases steps <;> rfl

/-- A type is flattened with its complex base, unless that is the type which allows everything. -/
theorem flattenedBase?_spec (type : ComplexType) :
    (s.flattenedBase? type = none ∧ ∀ base, s.complexBase? type = some base → base = .anyType) ∨
      ∃ name base method, s.flattenedBase? type = some (name, base, method) ∧
        s.complexBase? type = some base := by
  unfold flattenedBase? complexBase?
  cases type.base with
  | none => exact .inl ⟨rfl, by simp⟩
  | some derivation =>
    obtain ⟨name, method⟩ := derivation
    dsimp only
    by_cases any : name = .schema "anyType"
    · refine .inl ⟨if_pos any, ?_⟩
      have resolved : s.resolve (.named name) = some (.complex .anyType) := by
        rw [any]
        rfl
      rw [resolved]
      rintro base ⟨⟩
      rfl
    · rw [if_neg any]
      cases resolved : s.resolve (.named name) with
      | none => exact .inl ⟨rfl, by simp⟩
      | some definition =>
        cases definition with
        | complex base => exact .inr ⟨name, base, method, rfl, rfl⟩
        | simple _ | builtin _ => exact .inl ⟨rfl, by simp⟩

/-- The attributes of a type are what is left of the row when each occurrence replaces the ones
before it. -/
theorem attributes_flattenWithin (steps : Nat) (type : ComplexType) :
    (s.flattenWithin steps type).attributes =
      (s.occurrencesWithin steps type).foldl s.takeOccurrence [] := by
  induction steps generalizing type with
  | zero => exact s.uses_addItems type _
  | succ steps ih =>
    rw [flattenWithin, occurrencesWithin, List.foldl_append]
    rcases s.flattenedBase?_spec type with ⟨alone, any⟩ | ⟨name, base, method, flattened, found⟩
    · have nothing : ((s.complexBase? type).map (s.occurrencesWithin steps)).getD [] = [] := by
        cases found : s.complexBase? type with
        | none => rfl
        | some base =>
          rw [any base found]
          exact s.occurrencesWithin_anyType steps
      rw [alone, nothing]
      exact s.uses_addItems type _
    · rw [flattened, found, Option.map_some, Option.getD_some, ← ih base]
      cases method with
      | restriction => exact s.uses_addItems type _
      | extension => exact s.uses_addItems type _

/-! ## The last occurrence -/

variable {s} in
theorem mem_takeOccurrence {attributes : List AttributeUse} {o : AttributeOccurrence}
    {a : AttributeUse} : a ∈ s.takeOccurrence attributes o ↔
      (a ∈ attributes ∧ a.declaration.name ≠ o.name) ∨ s.use? o = some a := by
  simp [takeOccurrence]

section LastWins

variable {s} (named : ∀ name d, s.attribute? name = some d → d.name = name)

include named

theorem declares_usedDeclaration (o : AttributeOccurrence) :
    s.Declares o (s.usedDeclaration o.declaration o.byRef) := by
  unfold usedDeclaration
  by_cases byRef : o.byRef = true
  · rw [if_pos byRef]
    cases found : s.attribute? o.declaration.name with
    | none => exact .own (.inr found)
    | some d =>
      have declares := Declares.shared (o := o) byRef found
      rwa [← show d.name = o.name from named _ _ found] at declares
  · rw [if_neg byRef]
    exact .own (.inl (Bool.not_eq_true _ ▸ byRef))

theorem name_of_use? {o : AttributeOccurrence} {a : AttributeUse} (h : s.use? o = some a) :
    a.declaration.name = o.name := by
  obtain ⟨-, rfl⟩ := s.use?_eq_some_iff.1 h
  exact (declares_usedDeclaration named o).name_eq

variable {row : List AttributeOccurrence} {attributes : List AttributeUse}
  {o : AttributeOccurrence}

theorem nodup_takeOccurrence (distinct : (attributes.map (·.declaration.name)).Nodup) :
    ((s.takeOccurrence attributes o).map (·.declaration.name)).Nodup := by
  unfold takeOccurrence
  have others : ((attributes.filter (·.declaration.name != o.name)).map
      (·.declaration.name)).Nodup := distinct.sublist (List.filter_sublist.map _)
  cases used : s.use? o with
  | none => simpa using others
  | some a =>
    rw [Option.toList_some, List.map_append, List.map_singleton, name_of_use? named used]
    refine List.nodup_append.2 ⟨others, by simp, fun name left last right => ?_⟩
    obtain ⟨b, hb, rfl⟩ := List.mem_map.1 left
    rw [List.mem_singleton.1 right]
    simpa using (List.mem_filter.1 hb).2

/-- A name is there behind an occurrence if the occurrence gives it, or if it was there before and
the occurrence does not have it. -/
theorem exists_mem_takeOccurrence {name : QName} :
    (∃ a ∈ s.takeOccurrence attributes o, a.declaration.name = name) ↔
      (name = o.name ∧ o.usage ≠ .prohibited) ∨
        (name ≠ o.name ∧ ∃ a ∈ attributes, a.declaration.name = name) := by
  constructor
  · rintro ⟨a, ha, rfl⟩
    rcases mem_takeOccurrence.1 ha with ⟨ha, ne⟩ | used
    · exact .inr ⟨ne, a, ha, rfl⟩
    · exact .inl ⟨name_of_use? named used, (s.use?_eq_some_iff.1 used).1⟩
  · rintro (⟨rfl, allowed⟩ | ⟨ne, a, ha, rfl⟩)
    · have used := s.use?_eq_some_iff.2 ⟨allowed, rfl⟩
      exact ⟨_, mem_takeOccurrence.2 (.inr used), name_of_use? named used⟩
    · exact ⟨a, mem_takeOccurrence.2 (.inl ⟨ha, ne⟩), rfl⟩

/-- What is true of the attributes before an occurrence and of the last occurrences of their names,
and of the attribute that the occurrence gives, is true behind it. -/
theorem forall_takeOccurrence {R : AttributeUse → AttributeOccurrence → Prop}
    (before : ∀ a ∈ attributes, ∀ p : AttributeOccurrence, p.IsLast row →
      p.name = a.declaration.name → R a p)
    (new : ∀ a, s.use? o = some a → R a o) :
    ∀ a ∈ s.takeOccurrence attributes o, ∀ p : AttributeOccurrence, p.IsLast (row ++ [o]) →
      p.name = a.declaration.name → R a p := by
  intro a ha p last name
  rcases isLast_append_singleton.1 last with rfl | ⟨last, ne⟩
  · rcases mem_takeOccurrence.1 ha with ⟨-, ne⟩ | used
    · exact absurd name.symm ne
    · exact new a used
  · rcases mem_takeOccurrence.1 ha with ⟨ha, -⟩ | used
    · exact before a ha p last name
    · exact absurd (name.trans (name_of_use? named used)) ne

/-- An occurrence that is added at the end of the row decides about its name. -/
theorem LastWins.take (h : s.LastWins row attributes) (o : AttributeOccurrence) :
    s.LastWins (row ++ [o]) (s.takeOccurrence attributes o) where
  distinct := nodup_takeOccurrence named h.distinct
  present_iff name := by
    rw [exists_mem_takeOccurrence named, h.present_iff]
    constructor
    · rintro (⟨rfl, allowed⟩ | ⟨ne, p, last, rfl, allowed⟩)
      · exact ⟨o, isLast_append_singleton.2 (.inl rfl), rfl, allowed⟩
      · exact ⟨p, isLast_append_singleton.2 (.inr ⟨last, ne⟩), rfl, allowed⟩
    · rintro ⟨p, last, rfl, allowed⟩
      rcases isLast_append_singleton.1 last with rfl | ⟨last, ne⟩
      · exact .inl ⟨rfl, allowed⟩
      · exact .inr ⟨ne, p, last, rfl, allowed⟩
  required_iff := by
    refine forall_takeOccurrence named h.required_iff fun a used => ?_
    obtain ⟨-, rfl⟩ := s.use?_eq_some_iff.1 used
    exact decide_eq_true_iff
  declared := by
    refine forall_takeOccurrence named h.declared fun a used => ?_
    obtain ⟨-, rfl⟩ := s.use?_eq_some_iff.1 used
    exact declares_usedDeclaration named o
  ordered := by
    have others : (attributes.filter (·.declaration.name != o.name)).Pairwise fun a b =>
        EndsBefore (row ++ [o]) a.declaration.name b.declaration.name := by
      refine (h.ordered.filter _).imp_of_mem fun {a b} ha _ earlier => ?_
      have ne : a.declaration.name ≠ o.name := by simpa using (List.mem_filter.1 ha).2
      exact earlier.append_singleton ne
    have last : (s.use? o).toList.Pairwise fun a b =>
        EndsBefore (row ++ [o]) a.declaration.name b.declaration.name := by
      cases s.use? o <;> simp
    refine List.pairwise_append.2 ⟨others, last, fun a ha b hb => ?_⟩
    -- an attribute that stays occurs in the row, and the new occurrence is behind all of the row
    obtain ⟨ha, ne⟩ := List.mem_filter.1 ha
    obtain ⟨p, last, name, -⟩ := (h.present_iff a.declaration.name).1 ⟨a, ha, rfl⟩
    rw [name_of_use? named (Option.mem_toList.1 hb), ← name]
    exact endsBefore_new last.mem (by simpa [name] using ne)

theorem lastWins_foldl (row : List AttributeOccurrence) :
    s.LastWins row (row.foldl s.takeOccurrence []) := by
  induction row using List.reverseRecOn with
  | nil =>
    refine ⟨by simp, fun name => ?_, by simp, by simp, by simp⟩
    constructor
    · rintro ⟨a, ha, -⟩
      simp at ha
    · rintro ⟨o, last, -⟩
      exact absurd last not_isLast_nil
  | append_singleton row o ih =>
    rw [List.foldl_append]
    exact ih.take named o

end LastWins

/-- The attributes of the effective form of a type are those that the last occurrences of their names
give, where the row of occurrences has those of the base and then those of the type itself.  For
types that it holds, a set answers with this form. -/
theorem effectiveType_lastWins (source : SchemaSource) (operations : List Operation)
    (type : ComplexType) :
    let s := performAll source {} operations
    s.LastWins (s.occurrences type) (s.flatten type).attributes ∧
      (s.Holds type →
        s.LastWins (s.occurrences type) (s.effectiveType type).1.attributes) := by
  intro s
  have reachable : s.Reachable := Reachable.new.performAll source operations
  have named (name : QName) (d : AttributeDecl) (h : s.attribute? name = some d) : d.name = name :=
    name_of_attribute? reachable.indexed (named_performAll source operations) h
  have lastWins : s.LastWins (s.occurrences type) (s.flatten type).attributes := by
    rw [flatten, attributes_flattenWithin]
    exact lastWins_foldl named (s.occurrences type)
  refine ⟨lastWins, fun held => ?_⟩
  rwa [(reachable.remembers.effectiveType held).1]

/-- A global attribute, a type with a reference to it, and an extension of that type which requires
the attribute, and fixes it, behind two others. -/
def sampleAttributes : SchemaSource :=
  SchemaSource.ofFiles [(.ofText "/s", .ok (
    "<x:schema xmlns:x='http://www.w3.org/2001/XMLSchema'><x:attribute name='a' default='1'/>" ++
    "<x:complexType name='t'><x:attribute ref='a'/></x:complexType>" ++
    "<x:complexType name='u'><x:complexContent><x:extension base='t'>" ++
    "<x:attribute name='b' use='required'/><x:attribute name='c'/>" ++
    "<x:attribute ref='a' use='required' fixed='2'/><x:attribute name='b' use='prohibited'/>" ++
    "</x:extension></x:complexContent></x:complexType></x:schema>"))]

/-- The complex type with the given name. -/
def namedType (name : QName) (s : SchemaSet) : { type : ComplexType // s.Holds type } :=
  match found : s.typeDef? name with
  | some (.complex type) => ⟨type, holds_of_typeDef? found⟩
  | _ => ⟨.anyType, .anyType⟩

/-- What is required first is gone when it is prohibited later, and the attribute of the base has
moved to the place where it occurs last. -/
theorem effectiveType_lastWins_sample :
    let s := performAll sampleAttributes {} [.add ⟨"", .ofText "/s"⟩, .compile]
    let type := (namedType ⟨"", "u"⟩ s).1
    let effective := (s.effectiveType type).1
    s.Holds type ∧ s.LastWins (s.occurrences type) effective.attributes ∧
      (s.occurrences type).map (·.name.localName) = ["a", "b", "c", "a", "b"] ∧
      effective.attributes.map (fun a => (a.declaration.name.localName, a.isRequired)) =
        [("c", false), ("a", true)] ∧
      effective.attributes.map (fun a => (a.declaration.default, a.declaration.fixed)) =
        [(none, none), (some "1", some "2")] := by
  refine ⟨(namedType _ _).2, (effectiveType_lastWins sampleAttributes _ _).2 (namedType _ _).2, ?_⟩
  decide +kernel

end SchemaSet

end XmlSchema

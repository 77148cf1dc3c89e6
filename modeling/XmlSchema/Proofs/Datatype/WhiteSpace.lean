import XmlSchema.SchemaSet.Basic

/-!
# White space along derivations

A value is normalised at every derivation step, with a mode that is looked up anew each time.  The
steps agree: whether a text is a value of a type does not change, nor does what is wrong with it, if
the text is normalised beforehand as the type says (`checkValue_normalize`).  So a restriction
without a white space mode of its own accepts no more than its base, unless the derivation is so
high that the limit on steps is felt.

The three functions that follow derivations do so in the same way.  `derivation` says how a type is
made from others, and each function takes one step of its own (`Derivation.kind`,
`Derivation.whiteSpace`, `Derivation.check`) over what it gives for these.
-/

namespace XmlSchema

open Text

/-! ## Words -/

/-- A word is not empty and has no blank characters. -/
def IsWord (w : List Char) : Prop := w ≠ [] ∧ ∀ c ∈ w, isBlank c = false

theorem isWord_of_mem_words {cs w : List Char} (h : w ∈ words cs) : IsWord w := by
  fun_induction words cs generalizing w with
  | case1 => simp at h
  | case2 c cs blank ih => exact ih h
  | case3 c solid =>
    obtain rfl := List.mem_singleton.1 h
    exact ⟨by simp, by simpa using solid⟩
  | case4 c solid d cs blank ih =>
    rcases List.mem_cons.1 h with rfl | later
    · exact ⟨by simp, by simpa using solid⟩
    · exact ih later
  | case5 c solid d cs _ first rest read ih =>
    rw [read] at h
    rcases List.mem_cons.1 h with rfl | later
    · have begun : IsWord first := ih (by simp [read])
      exact ⟨by simp, List.forall_mem_cons.2 ⟨by simpa using solid, begun.2⟩⟩
    · exact ih (by simp [read, later])
  | case6 c solid d cs _ read ih =>
    rw [read] at h
    obtain rfl := List.mem_singleton.1 h
    exact ⟨by simp, by simpa using solid⟩

/-- A word at the front of a text is its first word, if nothing or a blank character follows. -/
theorem words_append {w rest : List Char} (word : IsWord w)
    (ends : ∀ c ∈ rest.head?, isBlank c = true) : words (w ++ rest) = w :: words rest := by
  induction w with
  | nil => exact absurd rfl word.1
  | cons c w ih =>
    obtain ⟨solid, later⟩ := List.forall_mem_cons.1 word.2
    cases w with
    | nil =>
      cases rest with
      | nil => simp [words, solid]
      | cons d rest =>
        have blank : isBlank d = true := ends d rfl
        simp [words, solid, blank]
    | cons d w =>
      have begun := ih ⟨by simp, later⟩
      have solid' : isBlank d = false := later d (by simp)
      rw [List.cons_append, List.cons_append] at *
      rw [words]
      simp [solid, solid', begun]

/-- Joined words are read back. -/
theorem words_unwords {ws : List (List Char)} (h : ∀ w ∈ ws, IsWord w) :
    words (unwords ws) = ws := by
  induction ws with
  | nil => rfl
  | cons w ws ih =>
    obtain ⟨word, later⟩ := List.forall_mem_cons.1 h
    cases ws with
    | nil =>
      have alone : words (w ++ []) = w :: words [] := words_append word (by simp)
      simpa [unwords] using alone
    | cons next ws =>
      have blank : isBlank ' ' = true := rfl
      rw [unwords, words_append word (by simp [blank]), words_cons_of_isBlank blank, ih later]
      simp

theorem words_unwords_words (cs : List Char) : words (unwords (words cs)) = words cs :=
  words_unwords fun _ => isWord_of_mem_words

theorem replaceBreak_replaceBreak (c : Char) : replaceBreak (replaceBreak c) = replaceBreak c := by
  unfold replaceBreak
  by_cases h : c = '\t' ∨ c = '\n' ∨ c = '\r'
  · rw [if_pos h]
    rfl
  · rw [if_neg h, if_neg h]

namespace WhiteSpace

/-- To normalise twice is to normalise once. -/
theorem normalize_normalize (mode : WhiteSpace) (value : String) :
    mode.normalize (mode.normalize value) = mode.normalize value := by
  cases mode with
  | preserve => rfl
  | replace => simp [normalize, Function.comp_def, replaceBreak_replaceBreak]
  | collapse => simp [normalize, words_unwords_words]

theorem splitWords_normalize (value : String) :
    splitWords (collapse.normalize value) = splitWords value := by
  simp [splitWords, normalize, words_unwords_words]

end WhiteSpace

/-! ## Derivations -/

/-- How a type is made from others. -/
inductive Derivation where
  /-- Nothing is known of the type, or nothing is asked of its values. -/
  | unconstrained
  | builtin (type : Builtin)
  /-- A complex type with simple content. -/
  | content (inner : TypeRef)
  | restriction (base : TypeRef) (facets : Facets)
  | list (item : TypeRef)
  | union (members : List TypeRef)

/-- How the type behind a reference is made from others. -/
def derivation (resolve : Resolver) (type : TypeRef) : Derivation :=
  match resolve type with
  | none => .unconstrained
  | some (.builtin b) => .builtin b
  | some (.simple definition) =>
    match definition.variety with
    | .restriction base facets => .restriction base facets
    | .list item => .list item
    | .union members => .union members
  | some (.complex definition) =>
    match definition.content with
    | .simple inner => .content inner
    | _ => .unconstrained

namespace Derivation

/-- The types that a type is made from. -/
def parts : Derivation → List TypeRef
  | .unconstrained | .builtin _ => []
  | .content inner => [inner]
  | .restriction base _ => [base]
  | .list item => [item]
  | .union members => members

/-- What the values of a type are, given what those of its parts are. -/
def kind (below : TypeRef → Option ValueKind) : Derivation → Option ValueKind
  | .unconstrained => none
  | .builtin b => some (if b.isList then .list else .atomic b)
  | .content inner => below inner
  | .restriction base _ => below base
  | .list _ => some .list
  | .union _ => some .union

/-- How white space is treated in values of a type, given how it is in those of its parts. -/
def whiteSpace (below : TypeRef → WhiteSpace) : Derivation → WhiteSpace
  | .unconstrained | .union _ => .preserve
  | .builtin b => b.whiteSpace
  | .content inner => below inner
  | .restriction base facets => facets.whiteSpace.getD (below base)
  | .list _ => .collapse

/-- Checks a text against a type, given how texts are checked against its parts. -/
def check (kindBelow : TypeRef → Option ValueKind) (whiteSpaceBelow : TypeRef → WhiteSpace)
    (below : TypeRef → String → Except ValueError Unit) (raw : String) :
    Derivation → Except ValueError Unit
  | .unconstrained => .ok ()
  | .builtin b => b.check (b.whiteSpace.normalize raw)
  | .content inner => below inner raw
  | .restriction base facets => do
    let value := (facets.whiteSpace.getD (whiteSpaceBelow base)).normalize raw
    below base value
    facets.check (kindBelow base) value
  | .list item => (splitWords raw).forM (below item)
  | .union members =>
    if members.any fun member => (below member raw).toBool then .ok () else .error (.union raw)

end Derivation

section Steps

variable {resolve : Resolver} (steps : Nat) (type : TypeRef)

theorem kindWithin_succ : kindWithin resolve (steps + 1) type =
    (derivation resolve type).kind (kindWithin resolve steps) := by
  rw [kindWithin]
  unfold derivation
  cases resolve type with
  | none => rfl
  | some found =>
    cases found with
    | builtin b => rfl
    | simple definition =>
      dsimp only
      cases definition.variety <;> rfl
    | complex definition =>
      dsimp only
      cases definition.content <;> rfl

theorem whiteSpaceWithin_succ : whiteSpaceWithin resolve (steps + 1) type =
    (derivation resolve type).whiteSpace (whiteSpaceWithin resolve steps) := by
  rw [whiteSpaceWithin]
  unfold derivation
  cases resolve type with
  | none => rfl
  | some found =>
    cases found with
    | builtin b => rfl
    | simple definition =>
      dsimp only
      cases definition.variety with
      | restriction base facets =>
        dsimp only [Derivation.whiteSpace]
        cases facets.whiteSpace <;> rfl
      | list item => rfl
      | union members => rfl
    | complex definition =>
      dsimp only
      cases definition.content <;> rfl

theorem checkWithin_succ (raw : String) : checkWithin resolve (steps + 1) type raw =
    (derivation resolve type).check (kindWithin resolve steps) (whiteSpaceWithin resolve steps)
      (checkWithin resolve steps) raw := by
  rw [checkWithin]
  unfold derivation
  cases resolve type with
  | none => rfl
  | some found =>
    cases found with
    | builtin b => rfl
    | simple definition =>
      dsimp only
      cases definition.variety <;> rfl
    | complex definition =>
      dsimp only
      cases definition.content <;> rfl

end Steps

/-! ## Normalising beforehand -/

/-- Looking at so many steps, a text and its normal form for the type get the same verdict. -/
theorem checkWithin_normalize (resolve : Resolver) (steps : Nat) (type : TypeRef) (raw : String) :
    checkWithin resolve steps type ((whiteSpaceWithin resolve steps type).normalize raw) =
      checkWithin resolve steps type raw := by
  induction steps generalizing type raw with
  | zero => rfl
  | succ steps ih =>
    rw [whiteSpaceWithin_succ, checkWithin_succ, checkWithin_succ]
    cases derivation resolve type with
    | unconstrained => rfl
    | builtin b => simp [Derivation.check, Derivation.whiteSpace, WhiteSpace.normalize_normalize]
    | content inner => exact ih inner raw
    | restriction base facets =>
      simp [Derivation.check, Derivation.whiteSpace, WhiteSpace.normalize_normalize]
    | list item => simp [Derivation.check, Derivation.whiteSpace, WhiteSpace.splitWords_normalize]
    | union members => rfl

/-- What a restriction without a white space mode of its own accepts, its base accepts when one step
less is looked at. -/
theorem checkWithin_base {resolve : Resolver} {type base : TypeRef} {facets : Facets} {steps : Nat}
    {raw : String} (restricts : derivation resolve type = .restriction base facets)
    (inherits : facets.whiteSpace = none)
    (accepted : checkWithin resolve (steps + 1) type raw = .ok ()) :
    checkWithin resolve steps base raw = .ok () := by
  rw [checkWithin_succ, restricts, Derivation.check, inherits, Option.getD_none] at accepted
  rw [← checkWithin_normalize]
  cases below : checkWithin resolve steps base
      ((whiteSpaceWithin resolve steps base).normalize raw) with
  | ok _ => rfl
  | error e => simp [below, bind, Except.bind] at accepted

/-! ## The height of a derivation -/

/-- The derivation of a type has at most so many steps, on every way down to types that are not made
from others. -/
def HeightAtMost (resolve : Resolver) : Nat → TypeRef → Prop
  | 0, type => (derivation resolve type).parts = []
  | n + 1, type => ∀ part ∈ (derivation resolve type).parts, HeightAtMost resolve n part

namespace Derivation

variable {k k' : TypeRef → Option ValueKind} {m m' : TypeRef → WhiteSpace}
  {f f' : TypeRef → String → Except ValueError Unit} {d : Derivation}

theorem kind_congr (h : ∀ part ∈ d.parts, k part = k' part) : d.kind k = d.kind k' := by
  cases d with
  | unconstrained | builtin | list | union => rfl
  | content inner => exact h inner (by simp [parts])
  | restriction base facets => exact h base (by simp [parts])

theorem whiteSpace_congr (h : ∀ part ∈ d.parts, m part = m' part) :
    d.whiteSpace m = d.whiteSpace m' := by
  cases d with
  | unconstrained | builtin | list | union => rfl
  | content inner => exact h inner (by simp [parts])
  | restriction base facets => simp [whiteSpace, h base (by simp [parts])]

theorem check_congr (hk : ∀ part ∈ d.parts, k part = k' part)
    (hm : ∀ part ∈ d.parts, m part = m' part) (hf : ∀ part ∈ d.parts, f part = f' part)
    (raw : String) : d.check k m f raw = d.check k' m' f' raw := by
  cases d with
  | unconstrained | builtin => rfl
  | content inner => simp [check, hf inner (by simp [parts])]
  | restriction base facets =>
    have self : base ∈ (restriction base facets).parts := by simp [parts]
    simp [check, hk base self, hm base self, hf base self]
  | list item => simp [check, hf item (by simp [parts])]
  | union members =>
    have same : (members.any fun member => (f member raw).toBool) =
        members.any fun member => (f' member raw).toBool := by
      rw [Bool.eq_iff_iff, List.any_eq_true, List.any_eq_true]
      exact exists_congr fun member => and_congr_right fun hmember => by rw [hf member hmember]
    simp [check, same]

end Derivation

theorem HeightAtMost.of_mem_parts {resolve : Resolver} {n : Nat} {type part : TypeRef}
    (height : HeightAtMost resolve n type) (h : part ∈ (derivation resolve type).parts) :
    ∃ m, n = m + 1 ∧ HeightAtMost resolve m part := by
  cases n with
  | zero =>
    have none_below : (derivation resolve type).parts = [] := height
    simp [none_below] at h
  | succ n => exact ⟨n, rfl, height part h⟩

/-- To look at more steps than the derivation is high makes no difference. -/
theorem within_eq_of_heightAtMost {resolve : Resolver} {n i j : Nat} {type : TypeRef}
    (height : HeightAtMost resolve n type) (hi : n < i) (hj : n < j) :
    kindWithin resolve i type = kindWithin resolve j type ∧
      whiteSpaceWithin resolve i type = whiteSpaceWithin resolve j type ∧
      checkWithin resolve i type = checkWithin resolve j type := by
  induction i generalizing n j type with
  | zero => omega
  | succ i ih =>
    obtain ⟨j, rfl⟩ : ∃ k, j = k + 1 := ⟨j - 1, by omega⟩
    have below : ∀ part ∈ (derivation resolve type).parts,
        kindWithin resolve i part = kindWithin resolve j part ∧
          whiteSpaceWithin resolve i part = whiteSpaceWithin resolve j part ∧
          checkWithin resolve i part = checkWithin resolve j part := by
      intro part hpart
      obtain ⟨m, rfl, lower⟩ := height.of_mem_parts hpart
      exact ih lower (by omega) (by omega)
    have kinds := fun part hpart => (below part hpart).1
    have modes := fun part hpart => (below part hpart).2.1
    have checks := fun part hpart => (below part hpart).2.2
    refine ⟨?_, ?_, ?_⟩
    · rw [kindWithin_succ, kindWithin_succ]
      exact Derivation.kind_congr kinds
    · rw [whiteSpaceWithin_succ, whiteSpaceWithin_succ]
      exact Derivation.whiteSpace_congr modes
    · funext raw
      rw [checkWithin_succ, checkWithin_succ]
      exact Derivation.check_congr kinds modes checks raw

/-- A text gets the same verdict from a type, with the same error, when it is normalised beforehand
as the type says.  What a restriction without a white space mode of its own accepts, its base
accepts too, if its derivation is at most 31 steps high. -/
theorem checkValue_normalize (resolve : Resolver) (type : TypeRef) (raw : String) :
    checkValue resolve type ((whiteSpaceOf resolve type).normalize raw) =
        checkValue resolve type raw ∧
      ∀ name base facets, resolve type = some (.simple ⟨name, .restriction base facets⟩) →
        facets.whiteSpace = none → HeightAtMost resolve 31 type →
        checkValue resolve type raw = .ok () → checkValue resolve base raw = .ok () := by
  refine ⟨checkWithin_normalize resolve derivationLimit type raw, ?_⟩
  intro name base facets resolved inherits height accepted
  have restricts : derivation resolve type = .restriction base facets := by
    unfold derivation
    rw [resolved]
  have lower : HeightAtMost resolve 30 base := height base (by simp [restricts, Derivation.parts])
  have from_base : checkWithin resolve 32 base raw = .ok () :=
    checkWithin_base restricts inherits accepted
  -- the base is looked at with one step more when it is the type in question
  have same := (within_eq_of_heightAtMost lower (i := 32) (j := 33) (by omega) (by omega)).2.2
  rwa [same] at from_base

/-- Up to two integers in a list, with line breaks and blanks around them. -/
theorem checkValue_normalize_list :
    let resolve : Resolver := ({} : SchemaSet).resolve
    let base : TypeRef := .simple ⟨none, .list (.named (.schema "int"))⟩
    let facets : Facets := { maxLength := some 2 }
    let type : TypeRef := .simple ⟨none, .restriction base facets⟩
    whiteSpaceOf resolve type = .collapse ∧
      checkValue resolve type "1 22" = checkValue resolve type " 1\n 22 " ∧
      resolve type = some (.simple ⟨none, .restriction base facets⟩) ∧ facets.whiteSpace = none ∧
      HeightAtMost resolve 31 type ∧ checkValue resolve type " 1\n 22 " = .ok () ∧
      checkValue resolve base " 1\n 22 " = .ok () := by
  intro resolve base facets type
  have accepted : checkValue resolve type " 1\n 22 " = .ok () := by
    have passes : (checkValue resolve type " 1\n 22 ").toBool = true := by decide +kernel
    cases h : checkValue resolve type " 1\n 22 " with
    | ok _ => rfl
    | error e => simp [h, Except.toBool] at passes
  have normal : (whiteSpaceOf resolve type).normalize " 1\n 22 " = "1 22" := by decide +kernel
  have item : derivation resolve (.named (.schema "int")) = .builtin .int := by rfl
  have height : HeightAtMost resolve 31 type := by
    intro part hpart
    obtain rfl : part = base := List.mem_singleton.1 hpart
    intro part hpart
    obtain rfl := List.mem_singleton.1 hpart
    intro part hpart
    simp [item, Derivation.parts] at hpart
  obtain ⟨same, base_accepts⟩ := checkValue_normalize resolve type " 1\n 22 "
  rw [normal] at same
  exact ⟨rfl, same, rfl, rfl, height, accepted,
    base_accepts none base facets rfl rfl height accepted⟩

end XmlSchema

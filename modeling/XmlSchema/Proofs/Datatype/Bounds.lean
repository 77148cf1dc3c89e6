import XmlSchema.Proofs.Datatype.Integers
import XmlSchema.Proofs.Datatype.WhiteSpace

/-!
# Bounds along restrictions

An integer type may be restricted step by step, and each step may bound the values from both sides.
`RestrictsBy` describes such a chain of restrictions by the bounds of its steps, an `IntegerRange`
for each.

Each step looks up anew what the values of its base are, and would pass over its bounds if that
lookup gave up.  It never gives up before the check does (`RestrictsBy.lookups`).  So, as far as
derivations are followed, a type accepts the values of the built-in type that satisfy every bound of
every step (`checkValue_eq_ok_iff_of_restrictsBy`).
-/

namespace XmlSchema

open Text

/-! ## Comparing integers -/

theorem trim_of_not_blank {cs : List Char} (h : ∀ c ∈ cs, isBlank c = false) : trim cs = cs := by
  have kept {ds : List Char} (hds : ∀ c ∈ ds, isBlank c = false) : ds.dropWhile isBlank = ds :=
    dropWhile_of_head? fun c hc => hds c (List.mem_of_head? hc)
  unfold trim trimStart trimEnd
  rw [kept h, kept fun c hc => h c (List.mem_reverse.1 hc), List.reverse_reverse]

theorem not_blank_digitChar : ∀ d : Fin 10, isBlank (Nat.digitChar d) = false := by decide

theorem not_blank_of_mem_digitText {ds : List (Fin 10)} {c : Char} (h : c ∈ digitText ds) :
    isBlank c = false := by
  obtain ⟨d, -, rfl⟩ := List.mem_map.1 h
  exact not_blank_digitChar d

theorem Numeral.not_blank {cs : List Char} {z : Int} (h : Numeral cs z) :
    ∀ c ∈ cs, isBlank c = false := by
  cases h with
  | unsigned ds _ => exact fun c => not_blank_of_mem_digitText
  | plus ds _ => exact List.forall_mem_cons.2 ⟨rfl, fun c => not_blank_of_mem_digitText⟩
  | minus ds _ => exact List.forall_mem_cons.2 ⟨rfl, fun c => not_blank_of_mem_digitText⟩

theorem dropWhile_plus_digitText (ds : List (Fin 10)) :
    (digitText ds).dropWhile (· == '+') = digitText ds := by
  refine dropWhile_of_head? fun c hc => ?_
  simpa using ne_of_mem_digitText (List.mem_of_head? hc) rfl

/-- To leave out the plus sign does not change what a numeral denotes. -/
theorem Numeral.comparable {s : String} {z : Int} (h : Numeral s.toList z) :
    Numeral (comparable s) z := by
  unfold XmlSchema.comparable
  rw [trim_of_not_blank h.not_blank]
  generalize s.toList = cs at h
  cases h with
  | unsigned ds nonempty =>
    rw [dropWhile_plus_digitText]
    exact .unsigned ds nonempty
  | plus ds nonempty =>
    rw [List.dropWhile_cons_of_pos rfl, dropWhile_plus_digitText]
    exact .unsigned ds nonempty
  | minus ds nonempty => exact .minus ds nonempty

/-- Numerals of at most 128 bits compare as the integers that they denote. -/
theorem compareNumbers_of_numeral {s t : String} {x y : Int} (hs : Numeral s.toList x)
    (hx : x ∈ signedIntegers 128) (ht : Numeral t.toList y) (hy : y ∈ signedIntegers 128) :
    compareNumbers s t = some (compare x y) := by
  have read_s : int? Builtin.minInteger Builtin.maxInteger (comparable s) = some x :=
    int?_eq_some_iff.2 ⟨hs.comparable, Builtin.mem_signedIntegers_128.1 hx⟩
  have read_t : int? Builtin.minInteger Builtin.maxInteger (comparable t) = some y :=
    int?_eq_some_iff.2 ⟨ht.comparable, Builtin.mem_signedIntegers_128.1 hy⟩
  unfold compareNumbers
  simp only [read_s, read_t]

/-! ## Checking facets -/

theorem bind_eq_ok_iff {ε α : Type} {x : Except ε Unit} {y : Except ε α} {a : α} :
    (x >>= fun _ => y) = .ok a ↔ x = .ok () ∧ y = .ok a := by
  cases x with
  | ok u => simp [bind, Except.bind]
  | error e => simp [bind, Except.bind]

namespace Facets

/-- A value meets the facets if it meets those of each kind. -/
theorem check_eq_ok_iff {f : Facets} {kind : Option ValueKind} {value : String} :
    f.check kind value = .ok () ↔
      f.checkEnumeration (kind.bind ValueKind.builtin?) value = .ok () ∧
        f.checkPatterns value = .ok () ∧
        f.checkLength (valueLength kind value.toList) = .ok () ∧
        f.checkBounds (kind.bind ValueKind.builtin?) value = .ok () ∧
        f.checkDigits value = .ok () := by
  unfold check
  simp only [bind_eq_ok_iff]

/-- A value meets the bounds if it meets all that it compares with. -/
theorem checkBounds_eq_ok_iff {f : Facets} {atomic : Option Builtin} {value : String} :
    f.checkBounds atomic value = .ok () ↔
      ∀ entry ∈ f.bounds, ∀ o, compareValues atomic value entry.2 = some o →
        entry.1.admits o = true := by
  unfold checkBounds
  cases found : f.bounds.find? fun entry =>
      (compareValues atomic value entry.2).any (!entry.1.admits ·) with
  | none =>
    rw [List.find?_eq_none] at found
    simpa [Option.any_eq_false] using found
  | some entry =>
    have violated := List.find?_some found
    obtain ⟨o, compared, refused⟩ := (Option.any_eq_true _ _).1 violated
    simp only [reduceCtorEq, false_iff]
    intro met
    simp [met entry (List.mem_of_find?_eq_some found) o compared] at refused

end Facets

/-! ## Bounds of one step -/

/-- A numeral of at most 128 bits. -/
structure Limit where
  text : String
  value : Int
  denotes : Numeral text.toList value
  fits : value ∈ signedIntegers 128

/-- The order between a limit and a value that a bound asks for. -/
def Bound.Holds : Bound → Int → Int → Prop
  | .minInclusive, limit, z => limit ≤ z
  | .maxInclusive, limit, z => z ≤ limit
  | .minExclusive, limit, z => limit < z
  | .maxExclusive, limit, z => z < limit

theorem Bound.admits_compare (bound : Bound) (z limit : Int) :
    bound.admits (compare z limit) = true ↔ bound.Holds limit z := by
  cases bound with
  | minInclusive => simp [admits, Holds, Int.compare_eq_lt]
  | maxInclusive => simp [admits, Holds, Int.compare_eq_gt]
  | minExclusive => simp [admits, Holds, Int.compare_eq_gt]
  | maxExclusive => simp [admits, Holds, Int.compare_eq_lt]

/-- At most one limit for each kind of bound. -/
structure IntegerRange where
  limit? : Bound → Option Limit

namespace IntegerRange

/-- The limits as facets, without any others. -/
def facets (r : IntegerRange) : Facets where
  minInclusive := (r.limit? .minInclusive).map Limit.text
  maxInclusive := (r.limit? .maxInclusive).map Limit.text
  minExclusive := (r.limit? .minExclusive).map Limit.text
  maxExclusive := (r.limit? .maxExclusive).map Limit.text

/-- An integer satisfies all bounds. -/
def Contains (r : IntegerRange) (z : Int) : Prop :=
  ∀ bound, ∀ limit ∈ r.limit? bound, bound.Holds limit.value z

/-- The range with one limit. -/
def only (bound : Bound) (limit : Limit) : IntegerRange :=
  ⟨fun other => if other = bound then some limit else none⟩

theorem contains_only {bound : Bound} {limit : Limit} {z : Int} :
    (only bound limit).Contains z ↔ bound.Holds limit.value z := by
  simp [Contains, only]

theorem mem_bounds_facets {r : IntegerRange} {bound : Bound} {text : String} :
    (bound, text) ∈ r.facets.bounds ↔ ∃ limit ∈ r.limit? bound, limit.text = text := by
  cases bound <;> simp [Facets.bounds, facets]

/-- Of the facets of a range only the bounds matter, and they hold of the value or not. -/
theorem check_facets {r : IntegerRange} {b : Builtin} (numeric : b.isNumeric = true)
    {value : String} {z : Int} (numeral : Numeral value.toList z) (fits : z ∈ signedIntegers 128) :
    r.facets.check (some (.atomic b)) value = .ok () ↔ r.Contains z := by
  have compared (limit : Limit) : compareValues (some b) value limit.text =
      some (compare z limit.value) := by
    rw [← compareNumbers_of_numeral numeral fits limit.denotes limit.fits]
    simp [compareValues, numeric]
  have bounds : r.facets.checkBounds (some b) value = .ok () ↔ r.Contains z := by
    rw [Facets.checkBounds_eq_ok_iff]
    constructor
    · intro met bound limit hlimit
      rw [← Bound.admits_compare]
      exact met (bound, limit.text) (mem_bounds_facets.2 ⟨limit, hlimit, rfl⟩) _ (compared limit)
    · rintro holds ⟨bound, text⟩ hentry o ordered
      obtain ⟨limit, hlimit, rfl⟩ := mem_bounds_facets.1 hentry
      obtain rfl := Option.some.inj ((compared limit).symm.trans ordered)
      exact (bound.admits_compare z limit.value).2 (holds bound limit hlimit)
  rw [Facets.check_eq_ok_iff, ← bounds]
  constructor
  · rintro ⟨-, -, -, met, -⟩
    exact met
  · intro met
    exact ⟨rfl, rfl, rfl, met, rfl⟩

end IntegerRange

/-! ## Chains of restrictions -/

section Derivation

variable {resolve : Resolver} {type : TypeRef}

theorem derivation_builtin {b : Builtin} (h : resolve type = some (.builtin b)) :
    derivation resolve type = .builtin b := by
  unfold derivation
  rw [h]

theorem derivation_restriction {name : Option QName} {base : TypeRef} {facets : Facets}
    (h : resolve type = some (.simple ⟨name, .restriction base facets⟩)) :
    derivation resolve type = .restriction base facets := by
  unfold derivation
  rw [h]

end Derivation

/-- A type restricts a built-in type by bounds, in as many steps as there are ranges; the last step
stands first. -/
inductive RestrictsBy (resolve : Resolver) (b : Builtin) : List IntegerRange → TypeRef → Prop where
  | builtin {type : TypeRef} (found : resolve type = some (.builtin b)) :
    RestrictsBy resolve b [] type
  | step {type base : TypeRef} {name : Option QName} {range : IntegerRange}
    {ranges : List IntegerRange}
    (found : resolve type = some (.simple ⟨name, .restriction base range.facets⟩))
    (chain : RestrictsBy resolve b ranges base) : RestrictsBy resolve b (range :: ranges) type

namespace Builtin

/-- The integer types. -/
def integerTypes : List Builtin := fixedWidth ++ halfBounded

theorem traits_of_mem_integerTypes : ∀ b ∈ integerTypes,
    b.isNumeric = true ∧ b.isList = false ∧ b.whiteSpace = .collapse := by decide

end Builtin

namespace RestrictsBy

variable {resolve : Resolver} {b : Builtin} {ranges : List IntegerRange} {type : TypeRef}
  {steps : Nat}

/-- Both lookups reach the built-in type when one step more is looked at than the chain has. -/
theorem lookups (chain : RestrictsBy resolve b ranges type) (integer : b ∈ Builtin.integerTypes)
    (h : ranges.length < steps) :
    kindWithin resolve steps type = some (.atomic b) ∧
      whiteSpaceWithin resolve steps type = .collapse := by
  obtain ⟨-, atomic, collapses⟩ := Builtin.traits_of_mem_integerTypes b integer
  induction chain generalizing steps with
  | builtin found =>
    obtain ⟨steps, rfl⟩ : ∃ n, steps = n + 1 := ⟨steps - 1, by omega⟩
    rw [kindWithin_succ, whiteSpaceWithin_succ, derivation_builtin found]
    simp [Derivation.kind, Derivation.whiteSpace, atomic, collapses]
  | step found chain ih =>
    obtain ⟨steps, rfl⟩ : ∃ n, steps = n + 1 := ⟨steps - 1, by omega⟩
    rw [kindWithin_succ, whiteSpaceWithin_succ, derivation_restriction found]
    exact ih (by simpa using h)

/-- Looking at one step more than the chain has, a text is accepted if the built-in type accepts it
and it satisfies the bounds of all steps. -/
theorem checkWithin_eq_ok_iff (chain : RestrictsBy resolve b ranges type)
    (integer : b ∈ Builtin.integerTypes) (h : ranges.length < steps) {raw : String} {z : Int}
    (numeral : Numeral (WhiteSpace.collapse.normalize raw).toList z)
    (fits : z ∈ signedIntegers 128) :
    checkWithin resolve steps type raw = .ok () ↔
      b.check (WhiteSpace.collapse.normalize raw) = .ok () ∧
        ∀ range ∈ ranges, range.Contains z := by
  obtain ⟨numeric, -, collapses⟩ := Builtin.traits_of_mem_integerTypes b integer
  induction chain generalizing steps raw with
  | builtin found =>
    obtain ⟨steps, rfl⟩ : ∃ n, steps = n + 1 := ⟨steps - 1, by omega⟩
    rw [checkWithin_succ, derivation_builtin found]
    simp [Derivation.check, collapses]
  | @step type base name range ranges found chain ih =>
    obtain ⟨steps, rfl⟩ : ∃ n, steps = n + 1 := ⟨steps - 1, by omega⟩
    have shorter : ranges.length < steps := by simpa using h
    obtain ⟨kind, mode⟩ := chain.lookups integer shorter
    have once := WhiteSpace.normalize_normalize .collapse raw
    -- the base is given the collapsed text, which collapses to itself
    have below := ih shorter (by rwa [once])
    rw [once] at below
    have inherits : range.facets.whiteSpace = none := rfl
    rw [checkWithin_succ, derivation_restriction found, Derivation.check, inherits,
      Option.getD_none, mode, kind, bind_eq_ok_iff, below,
      IntegerRange.check_facets numeric numeral fits, List.forall_mem_cons]
    exact and_assoc.trans (and_congr_right fun _ => and_comm)

end RestrictsBy

/-- A text that denotes an integer of at most 128 bits is accepted by a type that restricts an
integer type in at most 32 steps exactly if the integer type accepts it and the integer satisfies
every bound of every step. -/
theorem checkValue_eq_ok_iff_of_restrictsBy {resolve : Resolver} {b : Builtin}
    {ranges : List IntegerRange} {type : TypeRef} (integer : b ∈ Builtin.integerTypes)
    (chain : RestrictsBy resolve b ranges type) (short : ranges.length ≤ 32) {raw : String}
    {z : Int} (numeral : Numeral (WhiteSpace.collapse.normalize raw).toList z)
    (fits : z ∈ signedIntegers 128) :
    checkValue resolve type raw = .ok () ↔
      b.check (WhiteSpace.collapse.normalize raw) = .ok () ∧ ∀ range ∈ ranges, range.Contains z :=
  chain.checkWithin_eq_ok_iff integer (Nat.lt_succ_of_le short) numeral fits

/-- Restrictions inside each other, around a type; the first range is that of the outermost. -/
def restrictedBy (base : TypeRef) : List IntegerRange → TypeRef
  | [] => base
  | range :: ranges => .simple ⟨none, .restriction (restrictedBy base ranges) range.facets⟩

/-- Below 31 steps with one bound, the bound of the innermost step still counts. -/
theorem checkValue_eq_ok_iff_of_restrictsBy_innermost :
    let resolve : Resolver := ({} : SchemaSet).resolve
    let low : Limit :=
      ⟨"-3", -3, .of_int? (-3) 7 (by decide), by simp [signedIntegers]⟩
    let high : Limit :=
      ⟨"+007", 7, .of_int? (-3) 7 (by decide), by simp [signedIntegers]⟩
    let ranges := List.replicate 31 (.only .minInclusive low) ++ [.only .maxExclusive high]
    let type := restrictedBy (.named (.schema "byte")) ranges
    Builtin.byte ∈ Builtin.integerTypes ∧ RestrictsBy resolve .byte ranges type ∧
      ranges.length ≤ 32 ∧ Numeral (WhiteSpace.collapse.normalize "\n 7").toList 7 ∧
      7 ∈ signedIntegers 128 ∧ Builtin.byte.check "7" = .ok () ∧
      checkValue resolve type "\n 7" ≠ .ok () ∧ checkValue resolve type "\n 6" = .ok () := by
  intro resolve low high ranges type
  have chain (ranges : List IntegerRange) :
      RestrictsBy resolve .byte ranges (restrictedBy (.named (.schema "byte")) ranges) := by
    induction ranges with
    | nil => exact .builtin rfl
    | cons range ranges ih => exact .step rfl ih
  have collapsed_7 : WhiteSpace.collapse.normalize "\n 7" = "7" := by decide +kernel
  have collapsed_6 : WhiteSpace.collapse.normalize "\n 6" = "6" := by decide +kernel
  have numeral_7 : Numeral (WhiteSpace.collapse.normalize "\n 7").toList 7 := by
    rw [collapsed_7]
    exact .of_int? 6 7 (by decide)
  have numeral_6 : Numeral (WhiteSpace.collapse.normalize "\n 6").toList 6 := by
    rw [collapsed_6]
    exact .of_int? 6 7 (by decide)
  have fits_7 : 7 ∈ signedIntegers 128 := by simp [signedIntegers]
  have fits_6 : 6 ∈ signedIntegers 128 := by simp [signedIntegers]
  refine ⟨by decide, chain ranges, by simp [ranges], numeral_7, fits_7, by decide +kernel, ?_, ?_⟩
  · rw [Ne, checkValue_eq_ok_iff_of_restrictsBy (by decide) (chain ranges) (by simp [ranges])
      numeral_7 fits_7]
    rintro ⟨-, contained⟩
    have below := IntegerRange.contains_only.1
      (contained (.only .maxExclusive high) (by simp [ranges]))
    simp [Bound.Holds, high] at below
  · rw [checkValue_eq_ok_iff_of_restrictsBy (by decide) (chain ranges) (by simp [ranges])
      numeral_6 fits_6, collapsed_6]
    refine ⟨by decide +kernel, ?_⟩
    simp [ranges, IntegerRange.contains_only, Bound.Holds, low, high]

end XmlSchema

import Mathlib.Algebra.Order.Ring.Abs
import Mathlib.Data.List.DropRight
import Mathlib.Data.Rat.Cast.Order
import Mathlib.Tactic.FieldSimp
import Mathlib.Tactic.Linarith
import Mathlib.Tactic.Ring
import XmlSchema.Proofs.Datatype.Integers

/-!
# Decimal numbers

A decimal number is written with an optional sign and digits with an optional point among them.
`Decimal` says which rational such a text denotes, and the texts that denote one make up the lexical
form of the type `decimal` (`isDecimal_iff`).

Two facets limit the digits of a number, and `digitCounts` counts them in the text: those before the
point without zeros in front, and those behind it without zeros at the end.  The counts are those of
the value nevertheless (`digitCounts_of_decimal`).  Zeros at the ends do not change the value
(`pointNumber_dropWhile`, `pointNumber_rdropWhile`), and without them no digit can be left out
(`isLeast_fitsPlaces`, `isLeast_fitsDigits`).
-/

namespace XmlSchema

open Text

/-! ## Digits -/

theorem digitNumber_append (ds es : List (Fin 10)) :
    digitNumber (ds ++ es) = digitNumber ds * 10 ^ es.length + digitNumber es := by
  unfold digitNumber
  rw [List.reverse_append, List.map_append, Nat.ofDigits_append]
  simp only [List.length_map, List.length_reverse]
  ring

theorem digitNumber_singleton (d : Fin 10) : digitNumber [d] = d := by
  simp [digitNumber]

theorem digitNumber_lt (ds : List (Fin 10)) : digitNumber ds < 10 ^ ds.length := by
  have bound := Nat.ofDigits_lt_base_pow_length (b := 10) (l := ds.reverse.map Fin.val)
    (by decide) (by simp)
  simpa [digitNumber] using bound

/-- Zeros in front do not count. -/
theorem digitNumber_dropWhile (ds es : List (Fin 10)) :
    digitNumber (ds.dropWhile (· == 0) ++ es) = digitNumber (ds ++ es) := by
  induction ds with
  | nil => rfl
  | cons d ds ih =>
    by_cases zero : d = 0
    · subst zero
      rw [List.dropWhile_cons_of_pos rfl, ih, List.cons_append, ← List.singleton_append,
        digitNumber_append [0], digitNumber_singleton]
      simp
    · rw [List.dropWhile_cons_of_neg (by simpa using zero)]

/-- A number without zeros in front is as large as its digits are many. -/
theorem le_digitNumber_cons {d : Fin 10} (h : d ≠ 0) (ds : List (Fin 10)) :
    10 ^ ds.length ≤ digitNumber (d :: ds) := by
  rw [← List.singleton_append, digitNumber_append, digitNumber_singleton]
  have pos : 1 ≤ (d : Nat) := Nat.one_le_iff_ne_zero.2 fun zero => h (Fin.ext zero)
  calc 10 ^ ds.length ≤ (d : Nat) * 10 ^ ds.length := Nat.le_mul_of_pos_left _ pos
    _ ≤ (d : Nat) * 10 ^ ds.length + digitNumber ds := Nat.le_add_right ..

/-! ## Values -/

/-- The number that digits before and behind a point denote. -/
def pointNumber (ds fs : List (Fin 10)) : ℚ := digitNumber ds + digitNumber fs / 10 ^ fs.length

/-- What may follow the digits before the point: nothing, or the point with the digits behind it. -/
inductive Fraction : List Char → List (Fin 10) → Prop where
  | none : Fraction [] []
  | point (fs : List (Fin 10)) : Fraction ('.' :: digitText fs) fs

/-- The text has digits with an optional point among, before or behind them, and denotes the
rational. -/
inductive UnsignedDecimal : List Char → ℚ → Prop where
  | digits (ds : List (Fin 10)) {fs : List (Fin 10)} {rest : List Char}
    (fraction : Fraction rest fs) (nonempty : ds ≠ [] ∨ fs ≠ []) :
    UnsignedDecimal (digitText ds ++ rest) (pointNumber ds fs)

/-- The text is an optional sign with digits and an optional point, and denotes the rational. -/
inductive Decimal : List Char → ℚ → Prop where
  | unsigned {cs : List Char} {q : ℚ} (h : UnsignedDecimal cs q) : Decimal cs q
  | plus {cs : List Char} {q : ℚ} (h : UnsignedDecimal cs q) : Decimal ('+' :: cs) q
  | minus {cs : List Char} {q : ℚ} (h : UnsignedDecimal cs q) : Decimal ('-' :: cs) (-q)

theorem Fraction.ends {rest : List Char} {fs : List (Fin 10)} (h : Fraction rest fs) :
    ∀ c ∈ rest.head?, isDigit c = false := by
  cases h <;> simp [isDigit]

/-- A number without sign begins with a digit or with the point. -/
theorem Fraction.head_ne {rest : List Char} {fs : List (Fin 10)} (h : Fraction rest fs)
    (ds : List (Fin 10)) {x : Char} (no_digit : isDigit x = false) (no_point : x ≠ '.') :
    ∀ c ∈ (digitText ds ++ rest).head?, c ≠ x := by
  rintro c hc rfl
  cases ds with
  | nil => cases h <;> simp [digitText, no_point.symm] at hc
  | cons d ds =>
    have first : c ∈ digitText (d :: ds) := List.mem_of_head? hc
    exact ne_of_mem_digitText first no_digit rfl

theorem isUnsignedDecimal_iff {cs : List Char} :
    Lexical.isUnsignedDecimal cs = true ↔ ∃ q, UnsignedDecimal cs q := by
  unfold Lexical.isUnsignedDecimal
  constructor
  · intro h
    obtain ⟨ds, rest, rfl, ends⟩ := exists_digitText_append cs
    obtain ⟨taken, dropped⟩ := takeWhile_digitText ds ends
    simp only [taken, dropped] at h
    split at h
    · exact ⟨_, .digits ds .none (.inl (by simpa [digitText_eq_nil] using h))⟩
    · next fraction =>
      rw [Bool.and_eq_true] at h
      obtain ⟨fs, rfl⟩ := all_isDigit_iff.1 h.1
      exact ⟨_, .digits ds (.point fs) (by simpa [digitText_eq_nil, ← not_and_or] using h.2)⟩
    · simp at h
  · rintro ⟨q, h⟩
    obtain ⟨ds, fraction, nonempty⟩ := h
    obtain ⟨taken, dropped⟩ := takeWhile_digitText ds fraction.ends
    simp only [taken, dropped]
    cases fraction with
    | none => simpa [digitText_eq_nil] using nonempty
    | point =>
      simpa [all_isDigit_iff.2 ⟨_, rfl⟩, digitText_eq_nil, ← not_and_or] using nonempty

/-- The lexical form of the type `decimal` is that of the texts that denote rationals. -/
theorem isDecimal_iff {cs : List Char} : Lexical.isDecimal cs = true ↔ ∃ q, Decimal cs q := by
  unfold Lexical.isDecimal
  rw [isUnsignedDecimal_iff]
  constructor
  · rintro ⟨q, h⟩
    unfold Lexical.dropSign at h
    split at h
    · exact ⟨q, .plus h⟩
    · exact ⟨-q, .minus h⟩
    · exact ⟨q, .unsigned h⟩
  · rintro ⟨q, h⟩
    cases h with
    | plus h => exact ⟨_, h⟩
    | minus h => exact ⟨_, h⟩
    | unsigned h =>
      have form := isUnsignedDecimal_iff.2 ⟨q, h⟩
      unfold Lexical.dropSign
      split
      · simp [Lexical.isUnsignedDecimal, isDigit] at form
      · simp [Lexical.isUnsignedDecimal, isDigit] at form
      · exact ⟨q, h⟩

theorem pointNumber_eq (ds fs : List (Fin 10)) :
    pointNumber ds fs = digitNumber (ds ++ fs) / 10 ^ fs.length := by
  unfold pointNumber
  rw [digitNumber_append]
  push_cast
  field_simp

theorem pointNumber_dropWhile (ds fs : List (Fin 10)) :
    pointNumber (ds.dropWhile (· == 0)) fs = pointNumber ds fs := by
  rw [pointNumber_eq, pointNumber_eq, digitNumber_dropWhile]

/-- Zeros at the end do not count. -/
theorem pointNumber_rdropWhile (ds fs : List (Fin 10)) :
    pointNumber ds (fs.rdropWhile (· == 0)) = pointNumber ds fs := by
  induction fs using List.reverseRecOn with
  | nil => rfl
  | append_singleton fs d ih =>
    rw [List.rdropWhile_concat]
    by_cases zero : d = 0
    · subst zero
      rw [if_pos (beq_self_eq_true 0), ih, pointNumber_eq, pointNumber_eq, ← List.append_assoc,
        digitNumber_append _ [0], digitNumber_singleton, List.length_append]
      simp only [List.length_singleton, Fin.val_zero, Nat.add_zero, pow_succ]
      push_cast
      field_simp
    · rw [if_neg (by simpa using zero)]

/-- The rational can be written with so many decimal places. -/
def FitsPlaces (q : ℚ) (n : ℕ) : Prop := ∃ i : ℤ, q * 10 ^ n = i

/-- The rational can be written with so many digits, those behind the point included. -/
def FitsDigits (q : ℚ) (k : ℕ) : Prop :=
  ∃ (i : ℤ) (n : ℕ), q = i / 10 ^ n ∧ |i| < 10 ^ k ∧ n ≤ k

theorem FitsPlaces.neg {q : ℚ} {n : ℕ} (h : FitsPlaces q n) : FitsPlaces (-q) n := by
  obtain ⟨i, hi⟩ := h
  exact ⟨-i, by rw [neg_mul, hi, Int.cast_neg]⟩

theorem FitsDigits.neg {q : ℚ} {k : ℕ} (h : FitsDigits q k) : FitsDigits (-q) k := by
  obtain ⟨i, n, rfl, bound, le⟩ := h
  exact ⟨-i, n, by rw [Int.cast_neg, neg_div], by rwa [abs_neg], le⟩

theorem fitsPlaces_neg {q : ℚ} {n : ℕ} : FitsPlaces (-q) n ↔ FitsPlaces q n :=
  ⟨fun h => neg_neg q ▸ h.neg, FitsPlaces.neg⟩

theorem fitsDigits_neg {q : ℚ} {k : ℕ} : FitsDigits (-q) k ↔ FitsDigits q k :=
  ⟨fun h => neg_neg q ▸ h.neg, FitsDigits.neg⟩

section Least

variable {ds fs : List (Fin 10)}

theorem pointNumber_mul_eq_iff {n : ℕ} {i : ℤ} :
    pointNumber ds fs * 10 ^ n = i ↔
      (digitNumber (ds ++ fs) : ℤ) * 10 ^ n = i * 10 ^ fs.length := by
  rw [pointNumber_eq, div_mul_eq_mul_div, div_eq_iff (by positivity)]
  exact_mod_cast Iff.rfl

/-- If the last digit behind the point is not zero, no place can be left out. -/
theorem isLeast_fitsPlaces (last : ∀ d ∈ fs.getLast?, d ≠ 0) :
    IsLeast {n | FitsPlaces (pointNumber ds fs) n} fs.length := by
  refine ⟨⟨digitNumber (ds ++ fs), pointNumber_mul_eq_iff.2 rfl⟩, ?_⟩
  rintro n ⟨i, hi⟩
  by_contra! fewer
  obtain rfl | ⟨gs, d, rfl⟩ := List.eq_nil_or_concat' fs
  · simp at fewer
  rw [List.length_append, List.length_singleton] at fewer
  obtain ⟨m, hm⟩ : ∃ m, (gs ++ [d]).length = n + (m + 1) :=
    ⟨gs.length - n, by rw [List.length_append, List.length_singleton]; omega⟩
  have nonzero : d ≠ 0 := last d (by simp)
  rw [pointNumber_mul_eq_iff, hm, pow_add, mul_left_comm, mul_comm] at hi
  have multiple : (digitNumber (ds ++ (gs ++ [d])) : ℤ) = i * 10 ^ (m + 1) :=
    mul_left_cancel₀ (by positivity) hi
  have value : digitNumber (ds ++ (gs ++ [d])) = digitNumber (ds ++ gs) * 10 + d := by
    rw [← List.append_assoc, digitNumber_append, digitNumber_singleton]
    simp
  rw [value, pow_succ] at multiple
  push_cast at multiple
  -- with a place less, the last digit would be a multiple of ten
  have divides : (10 : ℤ) ∣ (d : ℕ) := ⟨i * 10 ^ m - digitNumber (ds ++ gs), by linarith⟩
  have := d.isLt
  omega

/-- If moreover the first digit before the point is not zero, no digit can be left out. -/
theorem isLeast_fitsDigits (first : ∀ d ∈ ds.head?, d ≠ 0) (last : ∀ d ∈ fs.getLast?, d ≠ 0) :
    IsLeast {k | FitsDigits (pointNumber ds fs) k} (ds.length + fs.length) := by
  have bound := digitNumber_lt (ds ++ fs)
  rw [List.length_append] at bound
  refine ⟨⟨digitNumber (ds ++ fs), fs.length, ?_, ?_, Nat.le_add_left ..⟩, ?_⟩
  · rw [pointNumber_eq, Int.cast_natCast]
  · rw [Nat.abs_cast]
    exact_mod_cast bound
  rintro k ⟨i, n, value, small, le⟩
  have hi : pointNumber ds fs * 10 ^ n = i := by rw [value, div_mul_cancel₀ _ (by positivity)]
  have places : fs.length ≤ n := (isLeast_fitsPlaces last).2 ⟨i, hi⟩
  cases ds with
  | nil => simpa using places.trans le
  | cons d ds =>
    -- the numerator is at least that of the shortest form, which has all the digits
    have equal := congrArg Int.natAbs (pointNumber_mul_eq_iff.1 hi)
    simp only [Int.natAbs_mul, Int.natAbs_pow, Int.natAbs_natCast, Int.reduceAbs] at equal
    have large : digitNumber (d :: ds ++ fs) ≤ i.natAbs := by
      refine Nat.le_of_mul_le_mul_right (c := 10 ^ fs.length) ?_ (by positivity)
      rw [← equal]
      exact Nat.mul_le_mul_left _ (Nat.pow_le_pow_right (by norm_num) places)
    have many : 10 ^ (ds ++ fs).length ≤ digitNumber (d :: ds ++ fs) :=
      le_digitNumber_cons (first d rfl) (ds ++ fs)
    have fewer : i.natAbs < 10 ^ k := by
      zify
      exact small
    have fits := (Nat.pow_lt_pow_iff_right (by norm_num)).1 ((many.trans large).trans_lt fewer)
    rw [List.length_append] at fits
    rw [List.length_cons]
    omega

end Least

/-! ## Digit counts -/

theorem byteLength_digitText (ds : List (Fin 10)) : byteLength (digitText ds) = ds.length := by
  have one : ∀ d : Fin 10, (Nat.digitChar d).utf8Size = 1 := by decide
  induction ds with
  | nil => rfl
  | cons d ds ih =>
    change (Nat.digitChar d).utf8Size + byteLength (digitText ds) = _
    rw [one, ih, List.length_cons, Nat.add_comm]

theorem dropWhile_zero_digitText (ds : List (Fin 10)) :
    (digitText ds).dropWhile (· == '0') = digitText (ds.dropWhile (· == 0)) := by
  have zero : ((· == '0') ∘ fun d : Fin 10 => Nat.digitChar d) = (· == 0) := by
    funext d
    exact (by decide : ∀ d : Fin 10, (Nat.digitChar d == '0') = (d == 0)) d
  unfold digitText
  rw [List.dropWhile_map, zero]

theorem digitText_reverse (ds : List (Fin 10)) : (digitText ds).reverse = digitText ds.reverse :=
  List.map_reverse.symm

/-- The digits that count: those before the point without zeros in front, and those behind it
without zeros at the end. -/
def significantCounts (ds fs : List (Fin 10)) : Nat × Nat :=
  (max 1 ((ds.dropWhile (· == 0)).length + (fs.rdropWhile (· == 0)).length),
    (fs.rdropWhile (· == 0)).length)

theorem digitCounts_digitText (ds : List (Fin 10)) {fs : List (Fin 10)} {rest : List Char}
    (h : Fraction rest fs) : digitCounts (digitText ds ++ rest) =
      ((significantCounts ds fs).1.toUInt32, (significantCounts ds fs).2.toUInt32) := by
  have no_point : ∀ c ∈ digitText ds, (c != '.') = true := fun c hc => by
    simpa using ne_of_mem_digitText hc rfl
  have unsigned : (digitText ds ++ rest).dropWhile (fun c => c == '+' || c == '-') =
      digitText ds ++ rest := by
    refine dropWhile_of_head? fun c hc => ?_
    have plus := h.head_ne ds (x := '+') rfl (by decide) c hc
    have minus := h.head_ne ds (x := '-') rfl (by decide) c hc
    simp [plus, minus]
  have before : (digitText ds ++ rest).takeWhile (· != '.') = digitText ds := by
    rw [List.takeWhile_append_of_pos no_point]
    cases h <;> simp
  have behind : ((digitText ds ++ rest).dropWhile (· != '.')).drop 1 = digitText fs := by
    rw [List.dropWhile_append_of_pos no_point]
    cases h <;> simp [digitText]
  unfold digitCounts
  simp only [unsigned, before, behind, digitText_reverse, dropWhile_zero_digitText,
    byteLength_digitText]
  rw [significantCounts, List.rdropWhile, List.length_reverse]

theorem countP_digitText (ds : List (Fin 10)) : (digitText ds).countP Char.isDigit = ds.length := by
  have digit : ∀ d : Fin 10, (Nat.digitChar d).isDigit = true := by decide
  have every : ∀ c ∈ digitText ds, c.isDigit = true := by
    intro c hc
    obtain ⟨d, -, rfl⟩ := List.mem_map.1 hc
    exact digit d
  rw [List.countP_eq_length.2 every, digitText, List.length_map]

/-- In a number of fewer than 2³² digits, the counts fit into words of 32 bits. -/
theorem toNat_digitCounts {ds fs : List (Fin 10)} {rest : List Char} (h : Fraction rest fs)
    (short : (digitText ds ++ rest).countP Char.isDigit < 2 ^ 32) :
    (digitCounts (digitText ds ++ rest)).1.toNat = (significantCounts ds fs).1 ∧
      (digitCounts (digitText ds ++ rest)).2.toNat = (significantCounts ds fs).2 := by
  have digits : (digitText ds ++ rest).countP Char.isDigit = ds.length + fs.length := by
    rw [List.countP_append, countP_digitText]
    cases h with
    | none => rfl
    | point fs => rw [List.countP_cons_of_neg (by decide), countP_digitText]
  have whole : (ds.dropWhile (· == 0)).length ≤ ds.length :=
    (List.dropWhile_sublist _).length_le
  have fraction : (fs.rdropWhile (· == 0)).length ≤ fs.length :=
    (List.rdropWhile_prefix _ fs).length_le
  rw [digits] at short
  rw [digitCounts_digitText ds h]
  unfold significantCounts
  exact ⟨UInt32.toNat_ofNat_of_lt' (by simp [UInt32.size]; omega),
    UInt32.toNat_ofNat_of_lt' (by simp [UInt32.size]; omega)⟩

theorem UnsignedDecimal.exists_counts {cs : List Char} {q : ℚ} (h : UnsignedDecimal cs q)
    (short : cs.countP Char.isDigit < 2 ^ 32) :
    ∃ ds fs, q = pointNumber ds fs ∧ (digitCounts cs).1.toNat = (significantCounts ds fs).1 ∧
      (digitCounts cs).2.toNat = (significantCounts ds fs).2 := by
  obtain ⟨ds, fraction, -⟩ := h
  exact ⟨ds, _, rfl, toNat_digitCounts fraction short⟩

/-- A sign does not count. -/
theorem Decimal.exists_counts {cs : List Char} {q : ℚ} (h : Decimal cs q)
    (short : cs.countP Char.isDigit < 2 ^ 32) :
    ∃ ds fs, (q = pointNumber ds fs ∨ q = -pointNumber ds fs) ∧
      (digitCounts cs).1.toNat = (significantCounts ds fs).1 ∧
      (digitCounts cs).2.toNat = (significantCounts ds fs).2 := by
  cases h with
  | unsigned h =>
    obtain ⟨ds, fs, value, counts⟩ := h.exists_counts short
    exact ⟨ds, fs, .inl value, counts⟩
  | plus h =>
    rw [List.countP_cons_of_neg (by decide)] at short
    obtain ⟨ds, fs, value, counts⟩ := h.exists_counts short
    exact ⟨ds, fs, .inl value, counts⟩
  | minus h =>
    rw [List.countP_cons_of_neg (by decide)] at short
    obtain ⟨ds, fs, value, counts⟩ := h.exists_counts short
    exact ⟨ds, fs, .inr (congrArg _ value), counts⟩

theorem isLeast_significantCounts (ds fs : List (Fin 10)) :
    IsLeast {n | FitsPlaces (pointNumber ds fs) n} (significantCounts ds fs).2 ∧
      ∃ k, IsLeast {k | FitsDigits (pointNumber ds fs) k} k ∧
        (significantCounts ds fs).1 = max 1 k := by
  have first : ∀ d ∈ (ds.dropWhile (· == 0)).head?, d ≠ 0 := by
    intro d hd
    have kept := List.head?_dropWhile_not (· == 0) ds
    rw [hd] at kept
    simpa using kept
  have last : ∀ d ∈ (fs.rdropWhile (· == 0)).getLast?, d ≠ 0 := by
    intro d hd
    obtain ⟨nonempty, rfl⟩ := List.mem_getLast?_eq_getLast hd
    simpa using List.rdropWhile_last_not (· == 0) fs nonempty
  rw [← pointNumber_dropWhile, ← pointNumber_rdropWhile]
  exact ⟨isLeast_fitsPlaces last, _, isLeast_fitsDigits first last, rfl⟩

/-- The digits that are counted in a decimal number, if there are fewer than 2³², depend on its value
only: those behind the point are as few as the value can be written with, and so are all of them
together, if at least one is counted.  So the facets that limit them give the same verdict on all
texts for one value. -/
theorem digitCounts_of_decimal {s : String} {q : ℚ} (h : Decimal s.toList q)
    (short : s.toList.countP Char.isDigit < 2 ^ 32) :
    IsLeast {n | FitsPlaces q n} (digitCounts s.toList).2.toNat ∧
      (∃ k, IsLeast {k | FitsDigits q k} k ∧ (digitCounts s.toList).1.toNat = max 1 k) ∧
      ∀ t : String, Decimal t.toList q → t.toList.countP Char.isDigit < 2 ^ 32 →
        ∀ f : Facets, f.checkDigits s = f.checkDigits t := by
  have least {t : String} (ht : Decimal t.toList q)
      (short : t.toList.countP Char.isDigit < 2 ^ 32) :
      IsLeast {n | FitsPlaces q n} (digitCounts t.toList).2.toNat ∧
        ∃ k, IsLeast {k | FitsDigits q k} k ∧ (digitCounts t.toList).1.toNat = max 1 k := by
    obtain ⟨ds, fs, rfl | rfl, total, fraction⟩ := ht.exists_counts short
    · rw [total, fraction]
      exact isLeast_significantCounts ds fs
    · simp only [total, fraction, fitsPlaces_neg, fitsDigits_neg]
      exact isLeast_significantCounts ds fs
  obtain ⟨places, k, digits, total⟩ := least h short
  refine ⟨places, ⟨k, digits, total⟩, ?_⟩
  intro t ht short' f
  obtain ⟨places', k', digits', total'⟩ := least ht short'
  have same : digitCounts s.toList = digitCounts t.toList := by
    refine Prod.ext (UInt32.toNat_inj.1 ?_) (UInt32.toNat_inj.1 (places.unique places'))
    rw [total, total', digits.unique digits']
  unfold Facets.checkDigits
  rw [same]

/-- Of a number below one, the zeros between the point and the other digits count. -/
theorem digitCounts_of_decimal_small :
    Decimal "-00.0500".toList (-1 / 20) ∧ Decimal "-.05".toList (-1 / 20) ∧
      IsLeast {n | FitsPlaces (-1 / 20) n} 2 ∧ IsLeast {k | FitsDigits (-1 / 20) k} 2 ∧
      ∀ f : Facets, f.checkDigits "-00.0500" = f.checkDigits "-.05" := by
  have long : Decimal "-00.0500".toList (-1 / 20) := by
    have whole : digitNumber [0, 0] = 0 := by decide
    have fraction : digitNumber [0, 5, 0, 0] = 500 := by decide
    have value : -1 / 20 = -pointNumber [0, 0] [0, 5, 0, 0] := by
      norm_num [pointNumber, whole, fraction]
    rw [value]
    exact .minus (.digits [0, 0] (.point [0, 5, 0, 0]) (.inl (by simp)))
  have short : Decimal "-.05".toList (-1 / 20) := by
    have whole : digitNumber [] = 0 := rfl
    have fraction : digitNumber [0, 5] = 5 := by decide
    have value : -1 / 20 = -pointNumber [] [0, 5] := by
      norm_num [pointNumber, whole, fraction]
    rw [value]
    exact .minus (.digits [] (.point [0, 5]) (.inr (by simp)))
  have counts : digitCounts "-00.0500".toList = (2, 2) := by decide
  obtain ⟨places, ⟨k, digits, total⟩, verdicts⟩ := digitCounts_of_decimal long (by decide)
  rw [counts] at places total
  obtain rfl : k = 2 := by
    have total : 2 = max 1 k := total
    omega
  exact ⟨long, short, places, digits, verdicts _ short (by decide)⟩

end XmlSchema

import XmlSchema.Proofs.Datatype.Decimals

/-!
# Reading decimal numbers as binary ones

`Binary64.read?` rounds what a text denotes to a number of 53 binary digits.  All numbers of the
format are multiples of one unit, and from a certain size on they are farther apart, by a power of
two (`spacing`); halves are rounded to the even side.

This file describes the rounding where the times of the day depend on it: the decimal numbers that
are read as zero (`ofDecimal_eq_zero_iff`) and those that are read as less than 60
(`ofDecimal_compare_sixty`).  It also shows that every text in decimal notation is read
(`read?_of_splitSign`).
-/

namespace XmlSchema.Binary64

open Text

/-! ## Rounding -/

section Rounding

variable {num den : Nat}

theorem roundDiv_bounds (num den : Nat) :
    num / den ≤ roundDiv num den ∧ roundDiv num den ≤ num / den + 1 := by
  unfold roundDiv
  dsimp only
  split <;> omega

/-- Halves are rounded to the even side, so an even number is reached from one half below it. -/
theorem roundDiv_lt_iff {t : Nat} (pos : 0 < den) (even : t % 2 = 0) :
    roundDiv num den < t ↔ 2 * num + den < 2 * (den * t) := by
  obtain ⟨least, most⟩ := roundDiv_bounds num den
  have parts := Nat.div_add_mod num den
  have rest := Nat.mod_lt num pos
  rcases Nat.lt_trichotomy (num / den + 1) t with below | at_half | above
  · have product : den * (num / den + 2) ≤ den * t := Nat.mul_le_mul_left den below
    rw [Nat.mul_add] at product
    omega
  · subst at_half
    unfold roundDiv
    rw [Nat.mul_add]
    dsimp only
    split <;> omega
  · have product : den * t ≤ den * (num / den) := Nat.mul_le_mul_left den (by omega)
    omega

theorem roundDiv_eq_zero_iff (pos : 0 < den) : roundDiv num den = 0 ↔ 2 * num ≤ den := by
  obtain ⟨least, most⟩ := roundDiv_bounds num den
  have parts := Nat.div_add_mod num den
  have rest := Nat.mod_lt num pos
  rcases Nat.eq_zero_or_pos (num / den) with zero | positive
  · unfold roundDiv
    rw [zero, Nat.mul_zero] at parts
    dsimp only
    split <;> omega
  · have product : den * 1 ≤ den * (num / den) := Nat.mul_le_mul_left den positive
    omega

/-- The exponent of the spacing between the numbers of the format, in units. -/
def spacing (num den : Nat) : Nat := Nat.log2 (num / den) - 52

theorem roundUnits_eq (num den : Nat) : roundUnits num den =
    roundDiv num (den * 2 ^ spacing num den) * 2 ^ spacing num den := by
  unfold roundUnits spacing
  simp only [Nat.pow_eq]
  split
  · next small =>
    have subnormal : Nat.log2 (num / den) - 52 = 0 := by
      rcases Nat.eq_zero_or_pos (num / den) with zero | positive
      · simp [zero]
      · have := (Nat.log2_lt (Nat.ne_of_gt positive)).2 small
        omega
    rw [subnormal, Nat.pow_zero]
  · rfl

theorem lt_of_spacing (pos : 0 < den) : num < den * 2 ^ (53 + spacing num den) := by
  have bound : num / den < 2 ^ (Nat.log2 (num / den) + 1) := Nat.lt_log2_self
  have larger : 2 ^ (Nat.log2 (num / den) + 1) ≤ 2 ^ (53 + spacing num den) :=
    Nat.pow_le_pow_right (by decide) (by unfold spacing; omega)
  rw [Nat.mul_comm]
  exact (Nat.div_lt_iff_lt_mul pos).1 (bound.trans_le larger)

theorem le_of_spacing (h : 0 < spacing num den) : den * 2 ^ (52 + spacing num den) ≤ num := by
  have exponent : 52 + spacing num den = Nat.log2 (num / den) := by unfold spacing at h ⊢; omega
  have nonzero : num / den ≠ 0 := by
    intro zero
    simp [spacing, zero] at h
  calc den * 2 ^ (52 + spacing num den) ≤ den * (num / den) := by
        rw [exponent]
        exact Nat.mul_le_mul_left den (Nat.log2_self_le nonzero)
    _ ≤ num := Nat.mul_div_le num den

/-- Where the spacing is more than a unit, at least the 53rd bit is set. -/
theorem le_roundUnits_of_spacing (pos : 0 < den) (h : 0 < spacing num den) :
    2 ^ (52 + spacing num den) ≤ roundUnits num den := by
  rw [roundUnits_eq, Nat.pow_add]
  refine Nat.mul_le_mul_right _ (le_trans ?_ (roundDiv_bounds _ _).1)
  rw [Nat.le_div_iff_mul_le (by positivity)]
  calc 2 ^ 52 * (den * 2 ^ spacing num den) = den * 2 ^ (52 + spacing num den) := by ring
    _ ≤ num := le_of_spacing h

theorem roundUnits_le (pos : 0 < den) : roundUnits num den ≤ 2 ^ (53 + spacing num den) := by
  rw [roundUnits_eq, Nat.pow_add]
  refine Nat.mul_le_mul_right _ ((roundDiv_bounds _ _).2.trans ?_)
  rw [Nat.succ_le_iff, Nat.div_lt_iff_lt_mul (by positivity)]
  calc num < den * 2 ^ (53 + spacing num den) := lt_of_spacing pos
    _ = 2 ^ 53 * (den * 2 ^ spacing num den) := by ring

/-- A number is rounded to zero from half a unit downwards. -/
theorem roundUnits_eq_zero_iff (pos : 0 < den) : roundUnits num den = 0 ↔ 2 * num ≤ den := by
  rcases Nat.eq_zero_or_pos (spacing num den) with unit | wide
  · rw [roundUnits_eq, unit, Nat.pow_zero, Nat.mul_one, Nat.mul_one]
    exact roundDiv_eq_zero_iff pos
  · have large := le_of_spacing wide
    have rounded := le_roundUnits_of_spacing pos wide
    have power : 1 ≤ 2 ^ (52 + spacing num den) := Nat.one_le_two_pow
    have product : den * 1 ≤ den * 2 ^ (52 + spacing num den) := Nat.mul_le_mul_left den power
    omega

/-- Between two neighbours in the format, the upper of which is even, a number is rounded to the
lower one if it lies below the midpoint. -/
theorem roundUnits_lt_iff {t j : Nat} (pos : 0 < den) (even : t % 2 = 0) (low : 2 ^ 52 < t)
    (high : t < 2 ^ 53) :
    roundUnits num den < t * 2 ^ j ↔ 2 * num + den * 2 ^ j < 2 * (den * 2 ^ j * t) := by
  -- where the spacing is not that of the neighbours, the number lies far off the midpoint
  rcases Nat.lt_trichotomy (spacing num den) j with below | same | above
  · have exponent : 2 ^ (53 + spacing num den) ≤ 2 ^ (52 + j) :=
      Nat.pow_le_pow_right (by decide) (by omega)
    have less : num < den * 2 ^ j * 2 ^ 52 := by
      calc num < den * 2 ^ (53 + spacing num den) := lt_of_spacing pos
        _ ≤ den * 2 ^ (52 + j) := Nat.mul_le_mul_left den exponent
        _ = den * 2 ^ j * 2 ^ 52 := by ring
    have more : den * 2 ^ j * (2 ^ 52 + 1) ≤ den * 2 ^ j * t := Nat.mul_le_mul_left _ low
    refine iff_of_true ?_ (by rw [Nat.mul_add] at more; omega)
    calc roundUnits num den ≤ 2 ^ (53 + spacing num den) := roundUnits_le pos
      _ ≤ 2 ^ 52 * 2 ^ j := by rwa [← Nat.pow_add]
      _ < t * 2 ^ j := Nat.mul_lt_mul_of_pos_right low (by positivity)
  · rw [roundUnits_eq, same, Nat.mul_lt_mul_right (by positivity)]
    exact roundDiv_lt_iff (by positivity) even
  · have wide : 0 < spacing num den := by omega
    have exponent : 2 ^ 53 * 2 ^ j ≤ 2 ^ (52 + spacing num den) := by
      rw [← Nat.pow_add]
      exact Nat.pow_le_pow_right (by decide) (by omega)
    have reached : t * 2 ^ j ≤ 2 ^ (52 + spacing num den) :=
      (Nat.mul_le_mul_right _ high.le).trans exponent
    refine iff_of_false (reached.trans (le_roundUnits_of_spacing pos wide)).not_gt ?_
    have more : den * 2 ^ j * t ≤ num := by
      calc den * 2 ^ j * t = den * (t * 2 ^ j) := by ring
        _ ≤ den * 2 ^ (52 + spacing num den) := Nat.mul_le_mul_left den reached
        _ ≤ num := le_of_spacing wide
    omega

theorem le_roundUnits {n : Nat} (pos : 0 < den) (hn : 53 ≤ n) (h : den * 2 ^ n ≤ num) :
    2 ^ n ≤ roundUnits num den := by
  have quotient : 2 ^ n ≤ num / den := by
    rwa [Nat.le_div_iff_mul_le pos, Nat.mul_comm]
  have nonzero : num / den ≠ 0 := (Nat.lt_of_lt_of_le (by positivity) quotient).ne'
  have exponent : n ≤ Nat.log2 (num / den) := (Nat.le_log2 nonzero).2 quotient
  have wide : n ≤ 52 + spacing num den ∧ 0 < spacing num den := by unfold spacing; omega
  calc 2 ^ n ≤ 2 ^ (52 + spacing num den) := Nat.pow_le_pow_right (by decide) wide.1
    _ ≤ roundUnits num den := le_roundUnits_of_spacing pos wide.2

end Rounding

/-! ## Decimal notation -/

section Decimal

variable {m k : Nat}

theorem lt_pow_length_toDigits (m : Nat) : m < 10 ^ (Nat.toDigits 10 m).length :=
  (Nat.length_toDigits_le_iff (by decide) (List.length_pos_of_ne_nil Nat.toDigits_ne_nil)).1 le_rfl

theorem pow_le_of_lt_length_toDigits (nonzero : m ≠ 0) (h : k < (Nat.toDigits 10 m).length) :
    10 ^ k ≤ m := by
  rcases Nat.eq_zero_or_pos k with rfl | pos
  · exact Nat.one_le_iff_ne_zero.2 nonzero
  · exact Nat.not_lt.1 fun less =>
      Nat.not_le.2 h ((Nat.length_toDigits_le_iff (by decide) pos).2 less)

theorem overflowUnits_eq : overflowUnits = 2 ^ (1024 + 1074) := by
  unfold overflowUnits
  -- the power is too large to be computed on the way
  generalize 1024 + 1074 = exponent
  exact Nat.pow_eq

theorem unitsOfOne_eq : Nat.pow 2 1074 = 2 ^ 1074 := by
  generalize 1074 = exponent
  exact Nat.pow_eq

theorem ofUnits_zero (negative : Bool) : ofUnits negative 0 = .finite 0 := by
  cases negative <;> decide +kernel

/-- What is called too small to be computed is rounded to zero. -/
theorem roundUnits_of_tiny (h : (Nat.toDigits 10 m).length + 330 < k) :
    roundUnits (m * 2 ^ 1074) (10 ^ k) = 0 := by
  rw [roundUnits_eq_zero_iff (by positivity)]
  have powers : 2 * 2 ^ 1074 ≤ 10 ^ 331 := by decide +kernel
  calc 2 * (m * 2 ^ 1074) = m * (2 * 2 ^ 1074) := Nat.mul_left_comm ..
    _ ≤ 10 ^ (Nat.toDigits 10 m).length * 10 ^ 331 :=
      Nat.mul_le_mul (lt_pow_length_toDigits m).le powers
    _ ≤ 10 ^ k := by
      rw [← Nat.pow_add]
      exact Nat.pow_le_pow_right (by decide) (by omega)

/-- What is called too large to be computed exceeds the format. -/
theorem overflow_of_huge (nonzero : m ≠ 0) (h : k + 310 < (Nat.toDigits 10 m).length) :
    overflowUnits ≤ roundUnits (m * 2 ^ 1074) (10 ^ k) := by
  have powers : 2 ^ 1024 ≤ 10 ^ 310 := by decide +kernel
  rw [overflowUnits_eq]
  refine le_roundUnits (by positivity) (by decide) ?_
  calc 10 ^ k * 2 ^ (1024 + 1074) = 10 ^ k * 2 ^ 1024 * 2 ^ 1074 := by
        rw [Nat.mul_assoc, ← Nat.pow_add]
    _ ≤ 10 ^ k * 10 ^ 310 * 2 ^ 1074 :=
      Nat.mul_le_mul_right _ (Nat.mul_le_mul_left _ powers)
    _ ≤ m * 2 ^ 1074 := by
      rw [← Nat.pow_add]
      exact Nat.mul_le_mul_right _ (pow_le_of_lt_length_toDigits nonzero h)

/-- The limits on the magnitude only save computing. -/
theorem ofDecimal_eq (negative : Bool) (m k : Nat) : ofDecimal negative m (-k) =
    ofUnits negative (roundUnits (m * 2 ^ 1074) (10 ^ k)) := by
  unfold ofDecimal
  dsimp only
  by_cases tiny : m = 0 ∨ ((Nat.toDigits 10 m).length : Int) + -k < -330
  · have rounded : roundUnits (m * 2 ^ 1074) (10 ^ k) = 0 := by
      rcases tiny with rfl | small
      · rw [Nat.zero_mul, roundUnits_eq_zero_iff (by positivity)]
        exact Nat.zero_le _
      · exact roundUnits_of_tiny (by omega)
    rw [if_pos tiny, rounded, ofUnits_zero]
  rw [if_neg tiny]
  rw [not_or] at tiny
  by_cases huge : 310 < ((Nat.toDigits 10 m).length : Int) + -k
  · have rounded := overflow_of_huge tiny.1 (k := k) (by omega)
    unfold ofUnits
    rw [if_pos huge, if_pos rounded, if_pos le_rfl]
  rw [if_neg huge]
  rw [unitsOfOne_eq]
  rcases Nat.eq_zero_or_pos k with rfl | pos
  · have once : Nat.pow 10 (-((0 : Nat) : Int)).toNat = 1 := rfl
    rw [if_pos (by decide), once, Nat.mul_one, Nat.pow_zero]
  · rw [if_neg (by omega), Int.neg_neg, Int.toNat_natCast, Nat.pow_eq]

theorem ofUnits_eq_zero_iff {units : Nat} : ofUnits false units = .finite 0 ↔ units = 0 := by
  unfold ofUnits
  by_cases overflow : overflowUnits ≤ units
  · have pos : 0 < overflowUnits := by rw [overflowUnits_eq]; positivity
    rw [if_pos overflow]
    exact iff_of_false (by simp) (by omega)
  · rw [if_neg overflow]
    simp

theorem ofUnits_compare_iff {units limit : Nat} (h : limit ≤ overflowUnits) :
    (ofUnits false units).compare? (.finite limit) = some .lt ↔ units < limit := by
  unfold ofUnits
  by_cases overflow : overflowUnits ≤ units
  · rw [if_pos overflow]
    exact iff_of_false (by simp [compare?]) (by omega)
  · rw [if_neg overflow]
    simp [compare?, Int.compare_eq_lt]

/-- What is at most half a unit is read as zero. -/
theorem ofDecimal_eq_zero_iff (m k : Nat) :
    ofDecimal false m (-k) = .finite 0 ↔ (m : ℚ) / 10 ^ k ≤ 1 / 2 ^ 1075 := by
  rw [ofDecimal_eq, ofUnits_eq_zero_iff, roundUnits_eq_zero_iff (by positivity),
    div_le_div_iff₀ (by positivity) (by positivity), pow_succ' (2 : ℚ) 1074, one_mul,
    mul_left_comm]
  exact_mod_cast Iff.rfl

/-- What is less than half the spacing below 60 is read as 60. -/
theorem ofDecimal_compare_sixty (m k : Nat) :
    (ofDecimal false m (-k)).compare? (ofDecimal false 60 0) = some .lt ↔
      (m : ℚ) / 10 ^ k < 60 - 1 / 2 ^ 48 := by
  have sixty : ofDecimal false 60 0 = .finite ((60 * 2 ^ 47 * 2 ^ 1027 : Nat) : Int) := by
    decide +kernel
  have fits : 60 * 2 ^ 47 * 2 ^ 1027 ≤ overflowUnits := by decide +kernel
  rw [sixty, ofDecimal_eq, ofUnits_compare_iff fits,
    roundUnits_lt_iff (by positivity) (by decide) (by decide) (by decide)]
  have scaled : 2 * (m * 2 ^ 1074) + 10 ^ k * 2 ^ 1027 < 2 * (10 ^ k * 2 ^ 1027 * (60 * 2 ^ 47)) ↔
      2 ^ 48 * m + 10 ^ k < 60 * 2 ^ 48 * 10 ^ k := by
    have power : 2 ^ 1074 = 2 ^ 47 * 2 ^ 1027 := by rw [← Nat.pow_add]
    rw [power]
    generalize hu : 2 ^ 1027 = u
    have pos : 0 < u := by rw [← hu]; positivity
    have left : 2 * (m * (2 ^ 47 * u)) + 10 ^ k * u = (2 ^ 48 * m + 10 ^ k) * u := by ring
    have right : 2 * (10 ^ k * u * (60 * 2 ^ 47)) = 60 * 2 ^ 48 * 10 ^ k * u := by ring
    rw [left, right, Nat.mul_lt_mul_right pos]
  rw [scaled, div_lt_iff₀ (by positivity), ← Nat.cast_lt (α := ℚ)]
  push_cast
  constructor <;> intro h <;> linarith

end Decimal

/-! ## Reading -/

theorem ofDecimal_ne_nan (negative : Bool) (m : Nat) (e : Int) : ofDecimal negative m e ≠ .nan := by
  have unit (units : Nat) : ofUnits negative units ≠ .nan := by
    unfold ofUnits
    split
    · cases negative <;> simp
    · simp
  unfold ofDecimal
  dsimp only
  split
  · simp
  · split
    · exact unit _
    · split <;> exact unit _

/-- In decimal notation there are no words and no exponent, and the point divides by a power. -/
theorem read?_of_splitSign {cs : List Char} {negative : Bool} {ds fs : List (Fin 10)}
    {rest : List Char} (sign : splitSign cs = (negative, digitText ds ++ rest))
    (fraction : Fraction rest fs) (nonempty : ds ≠ [] ∨ fs ≠ []) :
    read? cs = some (ofDecimal negative (digitNumber (ds ++ fs)) (-fs.length)) := by
  have first : ∀ c ∈ ((digitText ds ++ rest).map Char.toLower).head?, c ≠ 'n' ∧ c ≠ 'i' := by
    have lower : ∀ d : Fin 10,
        (Nat.digitChar d).toLower ≠ 'n' ∧ (Nat.digitChar d).toLower ≠ 'i' := by decide
    cases ds with
    | nil => cases fraction <;> simp [digitText]
    | cons d ds => simpa [digitText] using lower d
  have no_word {w : String} (hw : w.toList.head? = some 'n' ∨ w.toList.head? = some 'i') :
      String.ofList ((digitText ds ++ rest).map Char.toLower) ≠ w := by
    rintro rfl
    rw [String.toList_ofList] at hw
    rcases hw with n | i
    · exact (first _ n).1 rfl
    · exact (first _ i).2 rfl
  obtain ⟨taken, dropped⟩ := takeWhile_digitText ds fraction.ends
  unfold read?
  rw [sign]
  dsimp only
  rw [if_neg (no_word (.inl rfl)), if_neg (not_or.2 ⟨no_word (.inr rfl), no_word (.inr rfl)⟩),
    taken, dropped]
  cases fraction with
  | none =>
    have whole : ds ≠ [] := by simpa using nonempty
    simp [digitText_eq_nil, whole, exponent?, digitsValue_digitText]
  | point =>
    have digits : ∀ c ∈ digitText fs, isDigit c = true := fun c => isDigit_of_mem_digitText
    have joined : digitText ds ++ digitText fs = digitText (ds ++ fs) := List.map_append.symm
    have places : (digitText fs).length = fs.length := List.length_map _
    have some_digit : ¬ ((digitText ds).isEmpty && (digitText fs).isEmpty) = true := by
      simpa [digitText_eq_nil, ← not_and_or] using nonempty
    simp only [List.takeWhile_eq_self_iff.2 digits, List.dropWhile_eq_nil_iff.2 digits, exponent?,
      joined, digitsValue_digitText, places]
    rw [if_neg some_digit, Option.map_some, Int.zero_sub]

theorem splitSign_digitText (ds : List (Fin 10)) {fs : List (Fin 10)} {rest : List Char}
    (fraction : Fraction rest fs) :
    splitSign (digitText ds ++ rest) = (false, digitText ds ++ rest) := by
  have no_minus := fraction.head_ne ds (x := '-') rfl (by decide)
  have no_plus := fraction.head_ne ds (x := '+') rfl (by decide)
  unfold splitSign
  split
  · next minus => simp [minus] at no_minus
  · next plus => simp [plus] at no_plus
  · rfl

end XmlSchema.Binary64

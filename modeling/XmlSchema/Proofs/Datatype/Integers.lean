import Mathlib.Data.Int.ConditionallyCompleteOrder
import Mathlib.Data.List.Induction
import Mathlib.Data.Nat.Digits.Defs
import XmlSchema.Datatype.Value

/-!
# Integer types

A numeral is an optional sign with one or more decimal digits, and `Numeral cs z` says which integer
it denotes.  `Builtin.valueSpace` gives the integers of each integer type: those of a number of
bits, those on one side of a bound, or all of them.

A text is checked by reading it as a number of 128 bits.  For the types of fixed width and for
`integer` this makes no difference: they accept the numerals of their value space, however long
(`Builtin.check_eq_ok_iff_of_fixedWidth`).  The types that are bounded on one side refuse the
numerals of their value space that do not fit into 128 bits
(`Builtin.check_eq_ok_iff_of_halfBounded`).
-/

namespace XmlSchema

open Text

/-! ## Numerals -/

/-- Decimal digits as a text. -/
def digitText (ds : List (Fin 10)) : List Char := ds.map fun d : Fin 10 => Nat.digitChar d

/-- The number that decimal digits denote; the last one counts ones. -/
def digitNumber (ds : List (Fin 10)) : Nat := Nat.ofDigits 10 (ds.reverse.map Fin.val)

/-- The text is an optional sign with one or more decimal digits, and denotes the integer. -/
inductive Numeral : List Char → Int → Prop where
  | unsigned (ds : List (Fin 10)) (nonempty : ds ≠ []) : Numeral (digitText ds) (digitNumber ds)
  | plus (ds : List (Fin 10)) (nonempty : ds ≠ []) : Numeral ('+' :: digitText ds) (digitNumber ds)
  | minus (ds : List (Fin 10)) (nonempty : ds ≠ []) :
    Numeral ('-' :: digitText ds) (-digitNumber ds)

theorem isDigit_digitChar : ∀ d : Fin 10, isDigit (Nat.digitChar d) = true := by decide

theorem toNat_digitChar : ∀ d : Fin 10, (Nat.digitChar d).toNat - 48 = d := by decide

theorem exists_digitChar_eq {c : Char} (h : isDigit c = true) :
    ∃ d : Fin 10, Nat.digitChar d = c := by
  have bounds : 48 ≤ c.toNat ∧ c.toNat ≤ 57 := by
    simpa [isDigit, Char.le_def, UInt32.le_iff_toNat_le] using h
  have chars : ∀ d : Fin 10, Nat.digitChar d = Char.ofNat (48 + d) := by decide
  refine ⟨⟨c.toNat - 48, by omega⟩, ?_⟩
  rw [chars, Nat.add_sub_cancel' bounds.1, Char.ofNat_toNat]

theorem all_isDigit_iff {cs : List Char} : cs.all isDigit = true ↔ ∃ ds, cs = digitText ds := by
  constructor
  · intro h
    induction cs with
    | nil => exact ⟨[], rfl⟩
    | cons c cs ih =>
      rw [List.all_cons, Bool.and_eq_true] at h
      obtain ⟨d, rfl⟩ := exists_digitChar_eq h.1
      obtain ⟨ds, rfl⟩ := ih h.2
      exact ⟨d :: ds, rfl⟩
  · rintro ⟨ds, rfl⟩
    simp [digitText, isDigit_digitChar]

theorem digitText_eq_nil {ds : List (Fin 10)} : digitText ds = [] ↔ ds = [] := List.map_eq_nil_iff

/-- Reading from the first digit on gives the number that the digits denote. -/
theorem digitsValue_digitText (ds : List (Fin 10)) :
    digitsValue (digitText ds) = digitNumber ds := by
  induction ds using List.reverseRecOn with
  | nil => rfl
  | append_singleton ds d ih =>
    have read : digitsValue (digitText (ds ++ [d])) = digitsValue (digitText ds) * 10 + d := by
      simp [digitsValue, digitText, List.foldl_append, toNat_digitChar]
    have number : digitNumber (ds ++ [d]) = d + 10 * digitNumber ds := by
      simp [digitNumber, Nat.ofDigits_cons]
    rw [read, number, ih]
    omega

theorem digits?_eq_some_iff {cs : List Char} {n : Nat} :
    digits? cs = some n ↔ ∃ ds, ds ≠ [] ∧ cs = digitText ds ∧ digitNumber ds = n := by
  unfold digits?
  rw [Option.ite_none_left_eq_some, Bool.or_eq_true, not_or]
  constructor
  · rintro ⟨⟨nonempty, digits⟩, value⟩
    obtain ⟨ds, rfl⟩ := all_isDigit_iff.1 (by simpa using digits)
    refine ⟨ds, ?_, rfl, ?_⟩
    · rintro rfl
      exact nonempty rfl
    · rw [← digitsValue_digitText]
      exact Option.some.inj value
  · rintro ⟨ds, nonempty, rfl, rfl⟩
    refine ⟨⟨?_, ?_⟩, ?_⟩
    · simpa [digitText_eq_nil] using nonempty
    · simpa using all_isDigit_iff.2 ⟨ds, rfl⟩
    · rw [digitsValue_digitText]

theorem isDigit_of_mem_digitText {ds : List (Fin 10)} {c : Char} (h : c ∈ digitText ds) :
    isDigit c = true :=
  List.all_eq_true.1 (all_isDigit_iff.2 ⟨ds, rfl⟩) c h

theorem ne_of_mem_digitText {ds : List (Fin 10)} {c x : Char} (h : c ∈ digitText ds)
    (hx : isDigit x = false) : c ≠ x := by
  rintro rfl
  simp [isDigit_of_mem_digitText h] at hx

theorem dropWhile_of_head? {p : Char → Bool} {cs : List Char} (h : ∀ c ∈ cs.head?, p c = false) :
    cs.dropWhile p = cs := by
  cases cs with
  | nil => rfl
  | cons c cs => exact List.dropWhile_cons_of_neg (by simp [h c rfl])

theorem takeWhile_digitText (ds : List (Fin 10)) {rest : List Char}
    (ends : ∀ c ∈ rest.head?, isDigit c = false) :
    (digitText ds ++ rest).takeWhile isDigit = digitText ds ∧
      (digitText ds ++ rest).dropWhile isDigit = rest := by
  have digits : ∀ c ∈ digitText ds, isDigit c = true := fun c => isDigit_of_mem_digitText
  rw [List.takeWhile_append_of_pos digits, List.dropWhile_append_of_pos digits]
  cases rest with
  | nil => simp
  | cons c rest => simp [ends c rfl]

/-- A text begins with its digits. -/
theorem exists_digitText_append (cs : List Char) :
    ∃ ds rest, cs = digitText ds ++ rest ∧ ∀ c ∈ rest.head?, isDigit c = false := by
  induction cs with
  | nil => exact ⟨[], [], rfl, by simp⟩
  | cons c cs ih =>
    by_cases digit : isDigit c = true
    · obtain ⟨ds, rest, rfl, ends⟩ := ih
      obtain ⟨d, rfl⟩ := exists_digitChar_eq digit
      exact ⟨d :: ds, rest, rfl, ends⟩
    · exact ⟨[], c :: cs, rfl, by simpa using digit⟩

/-- Digits do not begin with a sign. -/
theorem digitText_ne_cons {c : Char} (h : isDigit c = false) (ds : List (Fin 10)) (cs : List Char) :
    digitText ds ≠ c :: cs := by
  rintro begins
  have digits : (c :: cs).all isDigit = true := all_isDigit_iff.2 ⟨ds, begins.symm⟩
  simp [h] at digits

theorem numeral_plus_iff {cs : List Char} {z : Int} :
    Numeral ('+' :: cs) z ↔ ∃ n : Nat, digits? cs = some n ∧ (n : Int) = z := by
  constructor
  · intro h
    generalize whole : '+' :: cs = text at h
    cases h with
    | unsigned ds _ => exact absurd whole.symm (digitText_ne_cons rfl ds cs)
    | plus ds nonempty =>
      obtain ⟨-, rfl⟩ := List.cons.inj whole
      exact ⟨_, digits?_eq_some_iff.2 ⟨ds, nonempty, rfl, rfl⟩, rfl⟩
    | minus ds _ => simp at whole
  · rintro ⟨n, read, rfl⟩
    obtain ⟨ds, nonempty, rfl, rfl⟩ := digits?_eq_some_iff.1 read
    exact .plus ds nonempty

theorem numeral_minus_iff {cs : List Char} {z : Int} :
    Numeral ('-' :: cs) z ↔ ∃ n : Nat, digits? cs = some n ∧ -(n : Int) = z := by
  constructor
  · intro h
    generalize whole : '-' :: cs = text at h
    cases h with
    | unsigned ds _ => exact absurd whole.symm (digitText_ne_cons rfl ds cs)
    | plus ds _ => simp at whole
    | minus ds nonempty =>
      obtain ⟨-, rfl⟩ := List.cons.inj whole
      exact ⟨_, digits?_eq_some_iff.2 ⟨ds, nonempty, rfl, rfl⟩, rfl⟩
  · rintro ⟨n, read, rfl⟩
    obtain ⟨ds, nonempty, rfl, rfl⟩ := digits?_eq_some_iff.1 read
    exact .minus ds nonempty

theorem numeral_iff_of_unsigned {cs : List Char} {z : Int} (no_plus : ∀ rest, cs ≠ '+' :: rest)
    (no_minus : ∀ rest, cs ≠ '-' :: rest) :
    Numeral cs z ↔ ∃ n : Nat, digits? cs = some n ∧ (n : Int) = z := by
  constructor
  · intro h
    cases h with
    | unsigned ds nonempty => exact ⟨_, digits?_eq_some_iff.2 ⟨ds, nonempty, rfl, rfl⟩, rfl⟩
    | plus ds _ => exact absurd rfl (no_plus _)
    | minus ds _ => exact absurd rfl (no_minus _)
  · rintro ⟨n, read, rfl⟩
    obtain ⟨ds, nonempty, rfl, rfl⟩ := digits?_eq_some_iff.1 read
    exact .unsigned ds nonempty

theorem int?_eq_some_iff {low high z : Int} {cs : List Char} :
    int? low high cs = some z ↔ Numeral cs z ∧ low ≤ z ∧ z ≤ high := by
  unfold int?
  simp only [Option.filter_eq_some_iff, Bool.and_eq_true, decide_eq_true_eq]
  refine and_congr_left fun _ => ?_
  split
  · rw [numeral_plus_iff, Option.map_eq_some_iff]
    rfl
  · rw [numeral_minus_iff, Option.map_eq_some_iff]
    rfl
  · next no_plus no_minus =>
    rw [numeral_iff_of_unsigned no_plus no_minus, Option.map_eq_some_iff]
    rfl

theorem Numeral.of_int? (low high : Int) {cs : List Char} {z : Int}
    (h : int? low high cs = some z) : Numeral cs z := (int?_eq_some_iff.1 h).1

/-- A numeral denotes one integer only. -/
theorem Numeral.unique {cs : List Char} {z z' : Int} (h : Numeral cs z) (h' : Numeral cs z') :
    z = z' := by
  have read : int? (min z z') (max z z') cs = some z := int?_eq_some_iff.2 ⟨h, by omega⟩
  have read' : int? (min z z') (max z z') cs = some z' := int?_eq_some_iff.2 ⟨h', by omega⟩
  exact Option.some.inj (read.symm.trans read')

theorem isDigits_iff {cs : List Char} :
    Lexical.isDigits cs = true ↔ ∃ n, digits? cs = some n := by
  unfold Lexical.isDigits digits?
  cases cs.isEmpty <;> cases cs.all isDigit <;> simp

/-- The lexical form of the integer types is that of numerals. -/
theorem isInteger_iff {cs : List Char} : Lexical.isInteger cs = true ↔ ∃ z, Numeral cs z := by
  unfold Lexical.isInteger Lexical.dropSign
  split
  · simp [isDigits_iff, numeral_plus_iff]
  · simp [isDigits_iff, numeral_minus_iff]
  · next no_plus no_minus => simp [isDigits_iff, numeral_iff_of_unsigned no_plus no_minus]

/-! ## Value spaces -/

/-- The integers of so many bits in two's complement. -/
def signedIntegers (bits : Nat) : Set Int := Set.Ico (-2 ^ (bits - 1)) (2 ^ (bits - 1))

/-- The integers of so many bits without sign. -/
def unsignedIntegers (bits : Nat) : Set Int := Set.Ico 0 (2 ^ bits)

theorem mem_signedIntegers {bits : Nat} {z : Int} :
    z ∈ signedIntegers bits ↔ -2 ^ (bits - 1) ≤ z ∧ z < 2 ^ (bits - 1) := Iff.rfl

theorem mem_unsignedIntegers {bits : Nat} {z : Int} :
    z ∈ unsignedIntegers bits ↔ 0 ≤ z ∧ z < 2 ^ bits := Iff.rfl

namespace Builtin

/-- The integers that are values of an integer type. -/
def valueSpace : Builtin → Set Int
  | .integer => Set.univ
  | .nonPositiveInteger => Set.Iic 0
  | .negativeInteger => Set.Iic (-1)
  | .long => signedIntegers 64
  | .int => signedIntegers 32
  | .short => signedIntegers 16
  | .byte => signedIntegers 8
  | .nonNegativeInteger => Set.Ici 0
  | .unsignedLong => unsignedIntegers 64
  | .unsignedInt => unsignedIntegers 32
  | .unsignedShort => unsignedIntegers 16
  | .unsignedByte => unsignedIntegers 8
  | .positiveInteger => Set.Ici 1
  | _ => ∅

/-- The type of all integers and the types of integers of a fixed width. -/
def fixedWidth : List Builtin :=
  [.integer, .long, .int, .short, .byte, .unsignedLong, .unsignedInt, .unsignedShort, .unsignedByte]

/-- The types of integers on one side of a bound. -/
def halfBounded : List Builtin :=
  [.nonNegativeInteger, .positiveInteger, .nonPositiveInteger, .negativeInteger]

variable {b : Builtin} {low high z : Int}

theorem mem_signedIntegers_128 : z ∈ signedIntegers 128 ↔ minInteger ≤ z ∧ z ≤ maxInteger := by
  rw [mem_signedIntegers, minInteger, maxInteger]
  omega

/-- Within 128 bits, the range of a type holds its values. -/
theorem mem_valueSpace_iff (h : b.integerRange? = some (low, high))
    (fits : z ∈ signedIntegers 128) : z ∈ b.valueSpace ↔ low ≤ z ∧ z ≤ high := by
  rw [mem_signedIntegers_128] at fits
  cases b with
  | integer =>
    simp only [integerRange?, Option.some.injEq, Prod.mk.injEq] at h
    simpa [valueSpace, ← h.1, ← h.2] using fits
  | nonPositiveInteger | negativeInteger | long | int | short | byte | nonNegativeInteger
  | unsignedLong | unsignedInt | unsignedShort | unsignedByte | positiveInteger =>
    simp only [integerRange?, Option.some.injEq, Prod.mk.injEq] at h
    obtain ⟨rfl, rfl⟩ := h
    simp only [valueSpace, mem_signedIntegers, mem_unsignedIntegers, Set.mem_Iic, Set.mem_Ici]
    omega
  | _ => simp [integerRange?] at h

/-- Beyond 128 bits, of these types only `integer` has values. -/
theorem mem_valueSpace_iff_of_fixedWidth (h : b ∈ fixedWidth) (exceeds : z ∉ signedIntegers 128) :
    z ∈ b.valueSpace ↔ b = .integer := by
  rw [mem_signedIntegers_128, minInteger, maxInteger] at exceeds
  simp only [fixedWidth, List.mem_cons, List.not_mem_nil, or_false] at h
  rcases h with rfl | rfl | rfl | rfl | rfl | rfl | rfl | rfl | rfl
  case inl => simp [valueSpace]
  all_goals
    simp only [valueSpace, mem_signedIntegers, mem_unsignedIntegers, reduceCtorEq, iff_false]
    omega

/-! ## Checking -/

theorem hasForm_of_integerRange? (h : b.integerRange? = some (low, high)) (cs : List Char) :
    b.hasForm cs = Lexical.isInteger cs := by
  cases b with
  | integer | nonPositiveInteger | negativeInteger | long | int | short | byte | nonNegativeInteger
  | unsignedLong | unsignedInt | unsignedShort | unsignedByte | positiveInteger => rfl
  | _ => simp [integerRange?] at h

/-- Of a type that is no integer type only the form counts. -/
theorem check_eq_ok_iff_hasForm (h : b.integerRange? = none) (s : String) :
    b.check s = .ok () ↔ b.hasForm s.toList = true := by
  have range : b.inRange s.toList = true := by
    unfold inRange
    rw [h]
  unfold check
  rw [range]
  cases b.hasForm s.toList <;> simp

/-- What an integer type accepts is a numeral. -/
theorem exists_numeral_of_check (h : b.integerRange? = some (low, high)) {s : String}
    (accepted : b.check s = .ok ()) : ∃ z, Numeral s.toList z := by
  unfold check at accepted
  rw [hasForm_of_integerRange? h] at accepted
  rw [← isInteger_iff]
  cases form : Lexical.isInteger s.toList with
  | true => rfl
  | false => simp [form] at accepted

theorem check_of_numeral (h : b.integerRange? = some (low, high)) {s : String}
    (numeral : Numeral s.toList z) :
    b.check s = if b.inRange s.toList then .ok () else .error (.outOfRange b s) := by
  have form : b.hasForm s.toList = true := by
    rw [hasForm_of_integerRange? h]
    exact isInteger_iff.2 ⟨z, numeral⟩
  unfold check
  rw [form]
  cases b.inRange s.toList <;> rfl

theorem check_eq_ok_iff_inRange (h : b.integerRange? = some (low, high)) {s : String}
    (numeral : Numeral s.toList z) : b.check s = .ok () ↔ b.inRange s.toList = true := by
  rw [check_of_numeral h numeral]
  cases b.inRange s.toList <;> simp

/-- A numeral that fits into 128 bits is in range if it denotes a value of the type. -/
theorem inRange_iff_of_mem (h : b.integerRange? = some (low, high)) {cs : List Char}
    (numeral : Numeral cs z) (fits : z ∈ signedIntegers 128) :
    b.inRange cs = true ↔ z ∈ b.valueSpace := by
  have read : int? minInteger maxInteger cs = some z :=
    int?_eq_some_iff.2 ⟨numeral, mem_signedIntegers_128.1 fits⟩
  unfold inRange
  rw [mem_valueSpace_iff h fits, h, read]
  simp

/-- A numeral that does not fit into 128 bits is in the range of the type `integer` only. -/
theorem inRange_iff_of_not_mem (h : b.integerRange? = some (low, high)) {cs : List Char}
    (numeral : Numeral cs z) (exceeds : z ∉ signedIntegers 128) :
    b.inRange cs = true ↔ b = .integer := by
  have unread : int? minInteger maxInteger cs = none := by
    by_contra read
    obtain ⟨z', hread⟩ := Option.ne_none_iff_exists'.1 read
    obtain ⟨numeral', bounds⟩ := int?_eq_some_iff.1 hread
    obtain rfl := numeral.unique numeral'
    exact exceeds (mem_signedIntegers_128.2 bounds)
  unfold inRange
  rw [h, unread]
  simp

theorem exists_integerRange? (h : b ∈ fixedWidth ∨ b ∈ halfBounded) :
    ∃ low high, b.integerRange? = some (low, high) := by
  have ranges : ∀ b ∈ fixedWidth ++ halfBounded, b.integerRange?.isSome = true := by decide
  obtain ⟨⟨low, high⟩, range⟩ := Option.isSome_iff_exists.1 (ranges b (List.mem_append.2 h))
  exact ⟨low, high, range⟩

/-- The type of all integers and those of fixed width accept a text exactly if it is a numeral, of
any length, that denotes one of their values. -/
theorem check_eq_ok_iff_of_fixedWidth (h : b ∈ fixedWidth) (s : String) :
    b.check s = .ok () ↔ ∃ z ∈ b.valueSpace, Numeral s.toList z := by
  obtain ⟨low, high, range⟩ := exists_integerRange? (.inl h)
  -- 128 bits hold all values of the types of fixed width, and `integer` accepts what exceeds them
  have in_range {z : Int} (numeral : Numeral s.toList z) :
      b.inRange s.toList = true ↔ z ∈ b.valueSpace := by
    by_cases fits : z ∈ signedIntegers 128
    · exact inRange_iff_of_mem range numeral fits
    · rw [inRange_iff_of_not_mem range numeral fits, mem_valueSpace_iff_of_fixedWidth h fits]
  constructor
  · intro accepted
    obtain ⟨z, numeral⟩ := exists_numeral_of_check range accepted
    rw [check_eq_ok_iff_inRange range numeral] at accepted
    exact ⟨z, (in_range numeral).1 accepted, numeral⟩
  · rintro ⟨z, value, numeral⟩
    rw [check_eq_ok_iff_inRange range numeral]
    exact (in_range numeral).2 value

/-- Zeros in front do not matter, and numerals of `integer` may be of any length. -/
theorem check_eq_ok_iff_of_fixedWidth_long :
    long ∈ fixedWidth ∧ integer ∈ fixedWidth ∧
      long.check "-00000000000000000000000000000000009223372036854775808" = .ok () ∧
      long.check "+9223372036854775808" ≠ .ok () ∧
      integer.check "170141183460469231731687303715884105728" = .ok () := by
  refine ⟨by decide, by decide, ?_, ?_, ?_⟩
  · refine (check_eq_ok_iff_of_fixedWidth (by decide) _).2
      ⟨-9223372036854775808, ?_, .of_int? minInteger maxInteger ?_⟩
    · simp [valueSpace, mem_signedIntegers]
    · decide +kernel
  · intro accepted
    obtain ⟨z, bounds, numeral⟩ := (check_eq_ok_iff_of_fixedWidth (by decide) _).1 accepted
    obtain rfl : 9223372036854775808 = z :=
      (Numeral.of_int? minInteger maxInteger (by decide +kernel)).unique numeral
    simp [valueSpace, mem_signedIntegers] at bounds
  · refine (check_eq_ok_iff_of_fixedWidth (by decide) _).2
      ⟨170141183460469231731687303715884105728, trivial, .of_int? 0 (maxInteger + 1) ?_⟩
    decide +kernel

/-- The types that are bounded on one side accept a text exactly if it is a numeral of at most 128
bits that denotes one of their values.  All other numerals of their values are reported as out of
range. -/
theorem check_eq_ok_iff_of_halfBounded (h : b ∈ halfBounded) (s : String) :
    (b.check s = .ok () ↔ ∃ z ∈ b.valueSpace, Numeral s.toList z ∧ z ∈ signedIntegers 128) ∧
      ∀ z ∈ b.valueSpace, Numeral s.toList z → z ∉ signedIntegers 128 →
        b.check s = .error (.outOfRange b s) := by
  obtain ⟨low, high, range⟩ := exists_integerRange? (.inr h)
  have refused {z : Int} (numeral : Numeral s.toList z) (exceeds : z ∉ signedIntegers 128) :
      b.check s = .error (.outOfRange b s) := by
    have not_integer : b ≠ .integer := by
      rintro rfl
      simp [halfBounded] at h
    rw [check_of_numeral range numeral, if_neg]
    rwa [inRange_iff_of_not_mem range numeral exceeds]
  refine ⟨⟨?_, ?_⟩, fun z _ numeral exceeds => refused numeral exceeds⟩
  · intro accepted
    obtain ⟨z, numeral⟩ := exists_numeral_of_check range accepted
    by_cases fits : z ∈ signedIntegers 128
    · rw [check_eq_ok_iff_inRange range numeral, inRange_iff_of_mem range numeral fits] at accepted
      exact ⟨z, accepted, numeral, fits⟩
    · simp [refused numeral fits] at accepted
  · rintro ⟨z, value, numeral, fits⟩
    rwa [check_eq_ok_iff_inRange range numeral, inRange_iff_of_mem range numeral fits]

/-- The least number that needs more than 128 bits is refused, the one before it is not. -/
theorem check_eq_ok_iff_of_halfBounded_limit :
    nonNegativeInteger ∈ halfBounded ∧
      nonNegativeInteger.check "170141183460469231731687303715884105727" = .ok () ∧
      170141183460469231731687303715884105728 ∈ nonNegativeInteger.valueSpace ∧
      Numeral "170141183460469231731687303715884105728".toList
        170141183460469231731687303715884105728 ∧
      nonNegativeInteger.check "170141183460469231731687303715884105728" =
        .error (.outOfRange .nonNegativeInteger "170141183460469231731687303715884105728") := by
  have numeral : Numeral "170141183460469231731687303715884105728".toList
      170141183460469231731687303715884105728 :=
    .of_int? 0 (maxInteger + 1) (by decide +kernel)
  have member : 170141183460469231731687303715884105728 ∈ nonNegativeInteger.valueSpace := by
    simp [valueSpace]
  refine ⟨by decide, ?_, member, numeral, ?_⟩
  · refine (check_eq_ok_iff_of_halfBounded (by decide) _).1.2
      ⟨170141183460469231731687303715884105727, ?_, .of_int? minInteger maxInteger ?_, ?_⟩
    · simp [valueSpace]
    · decide +kernel
    · simp [mem_signedIntegers]
  · refine (check_eq_ok_iff_of_halfBounded (by decide) _).2 _ member numeral ?_
    simp [mem_signedIntegers]

end Builtin

end XmlSchema

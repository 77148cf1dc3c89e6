import XmlSchema.Proofs.Datatype.DateTimes

/-!
# The order of dates

A bound on dates is compared with a value as a text.  `DateForm.textOrder` says what this order is
in terms of the parts of the dates: a minus sign comes first, then the leading digits of the years
count, as many as the shorter of the two has, and a shorter year comes before a longer one that
begins with it.  Months and days decide last.

The order of the calendar is that of signed years, months and days.  The two agree for years with
the same number of digits and no sign, and between years before and behind the year zero.  They
disagree on years before the year zero, which count backwards, and on years of different lengths,
unless the longer one begins with digits that are not below the shorter one
(`compareValues_date`).
-/

namespace XmlSchema

open Text Lexical

/-! ## The order of texts -/

/-- Strings are ordered as the lists of their characters. -/
theorem compare_eq_compare_toList (s t : String) : compare s t = compare s.toList t.toList := by
  have lists (cs ds : List Char) : compare cs ds = compareOfLessAndEq cs ds := by
    induction cs generalizing ds with
    | nil => cases ds <;> simp [compareOfLessAndEq]
    | cons c cs ih =>
      cases ds with
      | nil => simp [compareOfLessAndEq]
      | cons d ds =>
        rw [List.compare_cons_cons, ih]
        show (compareOfLessAndEq c d).then _ = _
        unfold compareOfLessAndEq
        simp only [List.cons_lt_cons_iff, List.cons.injEq]
        by_cases less : c < d
        · simp [less]
        · by_cases same : c = d
          · simp [same]
          · simp [less, same]
  rw [lists]
  show compareOfLessAndEq s t = _
  unfold compareOfLessAndEq
  simp only [String.lt_iff, String.toList_inj]

theorem compare_false_true : compare false true = Ordering.lt := rfl

theorem compare_true_false : compare true false = Ordering.gt := rfl

theorem compare_natCast (a b : Nat) : compare (a : Int) (b : Int) = compare a b := by
  show compareOfLessAndEq (a : Int) b = compareOfLessAndEq a b
  simp only [compareOfLessAndEq, Int.ofNat_lt, Int.natCast_inj]

theorem compare_neg_natCast (a b : Nat) : compare (-(a : Int)) (-b) = compare b a := by
  show compareOfLessAndEq (-(a : Int)) (-b) = compareOfLessAndEq b a
  simp only [compareOfLessAndEq, Int.neg_lt_neg_iff, Int.ofNat_lt, Int.neg_inj, Int.natCast_inj,
    eq_comm]

/-- Of two numbers that are each split at the same place the first parts count first. -/
theorem compare_mul_add {a b x y m : Nat} (hx : x < m) (hy : y < m) :
    compare (a * m + x) (b * m + y) = (compare a b).then (compare x y) := by
  have carry {i j p q : Nat} (h : i < j) (hp : p < m) : i * m + p < j * m + q :=
    calc i * m + p < (i + 1) * m := by rw [Nat.succ_mul]; omega
      _ ≤ j * m := Nat.mul_le_mul_right m h
      _ ≤ j * m + q := Nat.le_add_right ..
  rcases Nat.lt_trichotomy a b with less | rfl | greater
  · rw [Nat.compare_eq_lt.2 less, Nat.compare_eq_lt.2 (carry less hx)]
    rfl
  · rcases Nat.lt_trichotomy x y with less | rfl | greater
    · simp [Nat.compare_eq_lt.2 less, Nat.compare_eq_lt.2 (Nat.add_lt_add_left less (a * m))]
    · simp
    · simp [Nat.compare_eq_gt.2 greater, Nat.compare_eq_gt.2 (Nat.add_lt_add_left greater (a * m))]
  · rw [Nat.compare_eq_gt.2 greater, Nat.compare_eq_gt.2 (carry greater hy)]
    rfl

theorem compare_digitChar : ∀ d e : Fin 10,
    compare (Nat.digitChar d) (Nat.digitChar e) = compare (d : Nat) e := by decide

theorem compare_minus_digitChar : ∀ d : Fin 10, compare '-' (Nat.digitChar d) = .lt := by decide

theorem compare_digitChar_minus : ∀ d : Fin 10, compare (Nat.digitChar d) '-' = .gt := by decide

/-- Digits of the same number are ordered as the numbers that they denote. -/
theorem compare_digitText {ds es : List (Fin 10)} (same : ds.length = es.length)
    (cs cs' : List Char) : compare (digitText ds ++ cs) (digitText es ++ cs') =
      (compare (digitNumber ds) (digitNumber es)).then (compare cs cs') := by
  have first (d : Fin 10) (ds : List (Fin 10)) :
      digitNumber (d :: ds) = d * 10 ^ ds.length + digitNumber ds := by
    rw [← List.singleton_append, digitNumber_append, digitNumber_singleton]
  induction ds generalizing es with
  | nil =>
    obtain rfl : es = [] := List.eq_nil_of_length_eq_zero same.symm
    simp [digitText, digitNumber]
  | cons d ds ih =>
    cases es with
    | nil => simp at same
    | cons e es =>
      have same' : ds.length = es.length := by simpa using same
      have tail := ih same'
      simp only [digitText] at tail
      simp only [digitText, List.map_cons, List.cons_append, List.compare_cons_cons,
        compare_digitChar, tail]
      rw [first, first, ← same', compare_mul_add (digitNumber_lt ds) (same' ▸ digitNumber_lt es),
        Ordering.then_assoc]

/-- Of two years the leading digits count first, as many as the shorter one has, then the number of
digits. -/
theorem compare_years (ds es : List (Fin 10)) (cs cs' : List Char) :
    compare (digitText ds ++ '-' :: cs) (digitText es ++ '-' :: cs') =
      (compare (digitNumber (ds.take (min ds.length es.length)))
        (digitNumber (es.take (min ds.length es.length)))).then
        ((compare ds.length es.length).then (compare cs cs')) := by
  have split (n : Nat) (ds : List (Fin 10)) :
      digitText ds = digitText (ds.take n) ++ digitText (ds.drop n) := by
    rw [digitText, digitText, digitText, ← List.map_append, List.take_append_drop]
  have behind {n : Nat} {ds : List (Fin 10)} (h : n < ds.length) :
      digitText (ds.drop n) = Nat.digitChar ds[n] :: digitText (ds.drop (n + 1)) := by
    rw [List.drop_eq_getElem_cons h, digitText, digitText, List.map_cons]
  rcases Nat.lt_trichotomy ds.length es.length with shorter | same | longer
  · rw [Nat.min_eq_left shorter.le, List.take_length, split ds.length es, List.append_assoc,
      compare_digitText (by simp [shorter.le]), behind shorter, List.cons_append,
      List.compare_cons_cons, compare_minus_digitChar, Nat.compare_eq_lt.2 shorter]
    rfl
  · rw [same, Nat.min_self, List.take_length, ← same, List.take_length, compare_digitText same]
    simp
  · rw [Nat.min_eq_right longer.le, List.take_length, split es.length ds, List.append_assoc,
      compare_digitText (by simp [longer.le]), behind longer, List.cons_append,
      List.compare_cons_cons, compare_digitChar_minus, Nat.compare_eq_gt.2 longer]
    rfl

/-! ## Dates as texts and in the calendar -/

namespace DateForm

/-- The day of the calendar that a date names. -/
def Names (d : DateForm) (day : Std.Time.PlainDate) : Prop :=
  day.year.toInt = d.yearNumber ∧ day.month.toNat = d.month.number ∧ day.day.toNat = d.day.number

/-- The order of the months and days, whatever the years are. -/
def dayOrder (d e : DateForm) : Ordering :=
  (compare d.month.number e.month.number).then (compare d.day.number e.day.number)

/-- The order of dates as texts. -/
def textOrder (d e : DateForm) : Ordering :=
  let digits := min d.year.length e.year.length
  (compare e.negative d.negative).then <|
    (compare (digitNumber (d.year.take digits)) (digitNumber (e.year.take digits))).then <|
      (compare d.year.length e.year.length).then (d.dayOrder e)

theorem compare_text (d e : DateForm) : compare d.text e.text = d.textOrder e := by
  -- behind the years stand texts of the same length
  have days : compare (d.month.text ++ '-' :: d.day.text) (e.month.text ++ '-' :: e.day.text) =
      d.dayOrder e := by
    have pair (p q : DigitPair) (cs cs' : List Char) : compare (p.text ++ cs) (q.text ++ cs') =
        (compare p.number q.number).then (compare cs cs') :=
      @compare_digitText p.digits q.digits rfl cs cs'
    have last := pair d.day e.day [] []
    rw [List.append_nil, List.append_nil] at last
    rw [pair, List.compare_cons_cons, last]
    simp [dayOrder]
  have years := compare_years d.year e.year (d.month.text ++ '-' :: d.day.text)
    (e.month.text ++ '-' :: e.day.text)
  rw [days] at years
  have digit (f : DateForm) : ∃ (y : Fin 10) (ys : List (Fin 10)), f.year = y :: ys :=
    List.exists_cons_of_length_pos (by have := f.four_le; omega)
  unfold text textOrder
  cases hd : d.negative <;> cases he : e.negative
  · simpa using years
  · obtain ⟨y, ys, hy⟩ := digit d
    simp [hy, digitText, compare_digitChar_minus, List.compare_cons_cons, compare_true_false]
  · obtain ⟨y, ys, hy⟩ := digit e
    simp [hy, digitText, compare_minus_digitChar, List.compare_cons_cons, compare_false_true]
  · simpa [List.compare_cons_cons] using years

/-- The days of the calendar are ordered by year, month and day. -/
theorem compare_of_names {d e : DateForm} {x y : Std.Time.PlainDate} (hx : d.Names x)
    (hy : e.Names y) :
    compare x y = (compare d.yearNumber e.yearNumber).then (d.dayOrder e) := by
  have month (m : Std.Time.Month.Ordinal) : m.val = m.toNat := by
    obtain ⟨m | m, low, high⟩ := m
    · rfl
    · omega
  have day (i : Std.Time.Day.Ordinal) : i.val = i.toNat := by
    obtain ⟨i, low, high⟩ := i
    show i = i.toNat
    omega
  show (compare x.year.toInt y.year.toInt).then
    ((compare x.month.val y.month.val).then (compare x.day.val y.day.val)) = _
  rw [month, month, day, day, hx.1, hx.2.1, hx.2.2, hy.1, hy.2.1, hy.2.2, compare_natCast,
    compare_natCast]
  rfl

/-- Dates whose years have the same sign and the same number of digits are ordered as texts as they
are in the calendar, unless they lie in different years before the year zero. -/
theorem textOrder_of_length_eq {d e : DateForm} (sign : d.negative = e.negative)
    (same : d.year.length = e.year.length) :
    d.textOrder e = (compare d.yearNumber e.yearNumber).then (d.dayOrder e) ↔
      d.negative = false ∨ d.yearNumber = e.yearNumber := by
  have text : d.textOrder e =
      (compare (digitNumber d.year) (digitNumber e.year)).then (d.dayOrder e) := by
    unfold textOrder
    dsimp only
    rw [sign, same, Nat.min_self, List.take_length, ← same, List.take_length]
    simp
  rw [text]
  unfold yearNumber
  rw [← sign]
  cases d.negative with
  | false => simp [compare_natCast]
  | true =>
    simp only [if_true, compare_neg_natCast, Bool.true_eq_false, false_or, Int.neg_inj,
      Int.natCast_inj]
    rcases Nat.lt_trichotomy (digitNumber d.year) (digitNumber e.year) with less | same | greater
    · simp [Nat.compare_eq_lt.2 less, Nat.compare_eq_gt.2 less, less.ne]
    · simp [same]
    · simp [Nat.compare_eq_lt.2 greater, Nat.compare_eq_gt.2 greater, greater.ne']

/-- A date with a minus sign comes first in both orders, unless the years are equal. -/
theorem textOrder_of_negative_ne {d e : DateForm} (sign : d.negative ≠ e.negative)
    (years : d.yearNumber ≠ e.yearNumber) :
    d.textOrder e = (compare d.yearNumber e.yearNumber).then (d.dayOrder e) := by
  unfold textOrder
  unfold yearNumber at years ⊢
  cases hd : d.negative <;> cases he : e.negative
  · simp [hd, he] at sign
  · have less : -(digitNumber e.year : Int) < digitNumber d.year := by
      simp only [hd, he, if_true, if_false, Bool.false_eq_true] at years
      omega
    simp [compare_true_false, Int.compare_eq_gt.2 less]
  · have less : -(digitNumber d.year : Int) < digitNumber e.year := by
      simp only [hd, he, if_true, if_false, Bool.false_eq_true] at years
      omega
    simp [compare_false_true, Int.compare_eq_lt.2 less]
  · simp [hd, he] at sign

/-- Of two years with the same sign the one with more digits, the first of them not zero, lies
farther from the year zero.  The texts are ordered like that if the leading digits of the longer
year are not below the shorter year. -/
theorem textOrder_of_length_lt {d e : DateForm} (sign : d.negative = e.negative)
    (shorter : d.year.length < e.year.length) (first : e.year.head? ≠ some 0) :
    d.textOrder e = (compare d.yearNumber e.yearNumber).then (d.dayOrder e) ↔
      (d.negative = false ↔
        digitNumber d.year ≤ digitNumber (e.year.take d.year.length)) := by
  have text : d.textOrder e =
      (compare (digitNumber d.year) (digitNumber (e.year.take d.year.length))).then .lt := by
    unfold textOrder
    dsimp only
    rw [sign, Nat.min_eq_left shorter.le, List.take_length, Nat.compare_eq_lt.2 shorter]
    simp
  have less : digitNumber d.year < digitNumber e.year := by
    cases he : e.year with
    | nil => simp [he] at shorter
    | cons y ys =>
      have nonzero : y ≠ 0 := by simpa [he] using first
      calc digitNumber d.year < 10 ^ d.year.length := digitNumber_lt d.year
        _ ≤ 10 ^ ys.length :=
          Nat.pow_le_pow_right (by decide) (Nat.le_of_lt_succ (by simpa [he] using shorter))
        _ ≤ digitNumber (y :: ys) := le_digitNumber_cons nonzero ys
  have decided : (compare (digitNumber d.year) (digitNumber (e.year.take d.year.length))).then .lt =
      .lt ↔ digitNumber d.year ≤ digitNumber (e.year.take d.year.length) := by
    rw [← Nat.compare_ne_gt]
    cases compare (digitNumber d.year) (digitNumber (e.year.take d.year.length)) <;> simp
  rw [text]
  unfold yearNumber
  rw [← sign]
  cases d.negative with
  | false => simp [compare_natCast, Nat.compare_eq_lt.2 less, decided]
  | true =>
    simp only [if_true, compare_neg_natCast, Nat.compare_eq_gt.2 less, Bool.true_eq_false,
      false_iff, ← decided]
    cases compare (digitNumber d.year) (digitNumber (e.year.take d.year.length)) <;> simp

end DateForm

/-! ## Bounds on dates -/

/-- A date without a time zone that is accepted names a day of the calendar. -/
theorem exists_names_of_check {s : String} {d : DateForm} (text : s.toList = d.text)
    (accepted : Builtin.date.check s = .ok ()) : ∃ day, d.Names day := by
  rw [Builtin.check_eq_ok_iff_hasForm rfl, text] at accepted
  have day : isDate (d.text ++ Zone.none.text) = true := by
    rw [Zone.text, List.append_nil]
    exact accepted
  exact ((isDay_iff d).1 ((isDate_text d .none).symm.trans day)).1

/-- Dates without time zones are compared as texts.  That is the order of the calendar for years
with the same sign and number of digits, unless they are different years before the year zero, and
for years with different signs, unless both are the year zero.  Of two years with the same sign the
longer one, if it does not begin with a zero, is found on the right side of the shorter one exactly
if its leading digits are at least the shorter year and no sign stands before them, or less and a
sign stands there. -/
theorem compareValues_date {v b : String} {d e : DateForm} (hv : v.toList = d.text)
    (hb : b.toList = e.text) (v_accepted : Builtin.date.check v = .ok ())
    (b_accepted : Builtin.date.check b = .ok ()) :
    ∃ x y : Std.Time.PlainDate, d.Names x ∧ e.Names y ∧
      compareValues (some .date) v b = some (d.textOrder e) ∧
      (d.negative = e.negative → d.year.length = e.year.length →
        (d.textOrder e = compare x y ↔ d.negative = false ∨ d.yearNumber = e.yearNumber)) ∧
      (d.negative ≠ e.negative → d.yearNumber ≠ e.yearNumber → d.textOrder e = compare x y) ∧
      (d.negative = e.negative → d.year.length < e.year.length → e.year.head? ≠ some 0 →
        (d.textOrder e = compare x y ↔
          (d.negative = false ↔
            digitNumber d.year ≤ digitNumber (e.year.take d.year.length)))) := by
  obtain ⟨x, hx⟩ := exists_names_of_check hv v_accepted
  obtain ⟨y, hy⟩ := exists_names_of_check hb b_accepted
  have compared : compareValues (some .date) v b = some (d.textOrder e) := by
    rw [← DateForm.compare_text, ← hv, ← hb, ← compare_eq_compare_toList]
    rfl
  refine ⟨x, y, hx, hy, compared, ?_⟩
  rw [DateForm.compare_of_names hx hy]
  exact ⟨DateForm.textOrder_of_length_eq,
    DateForm.textOrder_of_negative_ne, DateForm.textOrder_of_length_lt⟩

/-- The year 10000 is taken for one before the year 9999. -/
theorem compareValues_date_five_digits :
    let d : DateForm := ⟨false, [1, 0, 0, 0, 0], by decide, ⟨0, 1⟩, ⟨0, 1⟩⟩
    let e : DateForm := ⟨false, [9, 9, 9, 9], by decide, ⟨1, 2⟩, ⟨3, 1⟩⟩
    "10000-01-01".toList = d.text ∧ "9999-12-31".toList = e.text ∧
      Builtin.date.check "10000-01-01" = .ok () ∧ Builtin.date.check "9999-12-31" = .ok () ∧
      ∃ x y : Std.Time.PlainDate, d.Names x ∧ e.Names y ∧ compare x y = .gt ∧
        compareValues (some .date) "10000-01-01" "9999-12-31" = some .lt := by
  intro d e
  have d_accepted : Builtin.date.check "10000-01-01" = .ok () := by decide +kernel
  have e_accepted : Builtin.date.check "9999-12-31" = .ok () := by decide +kernel
  obtain ⟨x, y, hx, hy, compared, -⟩ :=
    @compareValues_date "10000-01-01" "9999-12-31" d e rfl rfl d_accepted e_accepted
  refine ⟨rfl, rfl, d_accepted, e_accepted, x, y, hx, hy, ?_, compared⟩
  rw [DateForm.compare_of_names hx hy]
  decide +kernel

end XmlSchema

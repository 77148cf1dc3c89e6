import Mathlib.Tactic.IntervalCases
import XmlSchema.Proofs.Datatype.Rounding

/-!
# Dates and times

A date is written as a year, a month and a day (`DateForm`), a time as hours, minutes and seconds
with an optional fraction (`ClockForm`), and behind each of them a time zone may stand (`Zone`).
The recognisers take a text apart into these, and into nothing else (`isDate_iff`, `isTime_iff`).
The days that they admit are those of the Gregorian calendar (`inCalendar_iff`), in which the year
zero comes before the first.

A date with a time is split at the first `T`, and what stands before it is recognised as a date,
which may have a time zone.  So there may be two of them (`check_dateTime_eq_ok_iff`).
-/

namespace XmlSchema

open Text Lexical

/-! ## Parts of dates and times -/

/-- A number of two digits. -/
structure DigitPair where
  tens : Fin 10
  ones : Fin 10

namespace DigitPair

def digits (p : DigitPair) : List (Fin 10) := [p.tens, p.ones]

def text (p : DigitPair) : List Char := digitText p.digits

def number (p : DigitPair) : Nat := digitNumber p.digits

end DigitPair

/-- A time zone: none, `Z`, or an offset of hours and minutes. -/
inductive Zone where
  | none
  | utc
  | offset (negative : Bool) (hours minutes : DigitPair)

def Zone.text : Zone → List Char
  | .none => []
  | .utc => ['Z']
  | .offset negative hours minutes =>
    (if negative then '-' else '+') :: (hours.text ++ ':' :: minutes.text)

/-- A year of at least four digits with an optional minus sign, a month and a day. -/
structure DateForm where
  negative : Bool
  year : List (Fin 10)
  four_le : 4 ≤ year.length
  month : DigitPair
  day : DigitPair

namespace DateForm

def text (d : DateForm) : List Char :=
  (if d.negative then ['-'] else []) ++
    (digitText d.year ++ '-' :: (d.month.text ++ '-' :: d.day.text))

/-- The year; the one before the first is the year zero. -/
def yearNumber (d : DateForm) : Int :=
  if d.negative then -digitNumber d.year else digitNumber d.year

/-- There is such a day in the Gregorian calendar. -/
def InCalendar (d : DateForm) : Prop :=
  ∃ date : Std.Time.PlainDate, date.year.toInt = d.yearNumber ∧
    date.month.toNat = d.month.number ∧ date.day.toNat = d.day.number

end DateForm

/-- Hours, minutes and seconds with an optional fraction. -/
structure ClockForm where
  hour : DigitPair
  minute : DigitPair
  second : DigitPair
  fraction : List (Fin 10)

/-- The point with the digits behind it, if there are any. -/
def fractionText (fs : List (Fin 10)) : List Char := if fs = [] then [] else '.' :: digitText fs

namespace ClockForm

def text (c : ClockForm) : List Char :=
  c.hour.text ++ ':' :: (c.minute.text ++ ':' :: (c.second.text ++ fractionText c.fraction))

def seconds (c : ClockForm) : ℚ := pointNumber c.second.digits c.fraction

/-- A time of the day, or the end of the day as its hour 24.  The seconds are rounded to 53 binary
digits before they are compared: those at the end of the day may exceed zero by half the least
number, and the others must differ from 60 by more than half the spacing there. -/
def OnClock (c : ClockForm) : Prop :=
  c.hour.number = 24 ∧ c.minute.number = 0 ∧ c.seconds ≤ 1 / 2 ^ 1075 ∨
    c.hour.number < 24 ∧ c.minute.number < 60 ∧ c.seconds < 60 - 1 / 2 ^ 48

end ClockForm

/-! ## Reading -/

theorem twoDigits?_eq_some_iff {cs rest : List Char} {n : Nat} :
    twoDigits? cs = some (n, rest) ↔ ∃ p : DigitPair, cs = p.text ++ rest ∧ p.number = n := by
  constructor
  · intro h
    unfold twoDigits? at h
    split at h
    · next a b rest' =>
      rw [Option.ite_none_right_eq_some, Bool.and_eq_true] at h
      obtain ⟨⟨ha, hb⟩, h⟩ := h
      obtain ⟨a, rfl⟩ := exists_digitChar_eq ha
      obtain ⟨b, rfl⟩ := exists_digitChar_eq hb
      obtain ⟨rfl, rfl⟩ := Prod.mk.inj (Option.some.inj h)
      exact ⟨⟨a, b⟩, rfl, (digitsValue_digitText [a, b]).symm⟩
    · simp at h
  · rintro ⟨p, rfl, rfl⟩
    have value : digitsValue [Nat.digitChar p.tens, Nat.digitChar p.ones] = p.number :=
      digitsValue_digitText p.digits
    simp [twoDigits?, DigitPair.text, DigitPair.digits, digitText, isDigit_digitChar, value]

theorem twoDigits?_text (p : DigitPair) (rest : List Char) :
    twoDigits? (p.text ++ rest) = some (p.number, rest) :=
  twoDigits?_eq_some_iff.2 ⟨p, rfl, rfl⟩

theorem after?_cons (c : Char) (rest : List Char) : after? c (c :: rest) = some rest := if_pos rfl

theorem after?_eq_some_iff {c : Char} {cs rest : List Char} :
    after? c cs = some rest ↔ cs = c :: rest := by
  cases cs with
  | nil => simp [after?]
  | cons d cs => simp [after?]

theorem isZone_iff {cs : List Char} : isZone cs = true ↔ ∃ zone : Zone, cs = zone.text := by
  constructor
  · intro h
    unfold isZone at h
    split at h
    · exact ⟨.none, rfl⟩
    · exact ⟨.utc, rfl⟩
    · next sign a b c d =>
      simp only [Bool.and_eq_true, Bool.or_eq_true, beq_iff_eq] at h
      obtain ⟨⟨⟨⟨hsign, ha⟩, hb⟩, hc⟩, hd⟩ := h
      obtain ⟨a, rfl⟩ := exists_digitChar_eq ha
      obtain ⟨b, rfl⟩ := exists_digitChar_eq hb
      obtain ⟨c, rfl⟩ := exists_digitChar_eq hc
      obtain ⟨d, rfl⟩ := exists_digitChar_eq hd
      rcases hsign with rfl | rfl
      · exact ⟨.offset false ⟨a, b⟩ ⟨c, d⟩, rfl⟩
      · exact ⟨.offset true ⟨a, b⟩ ⟨c, d⟩, rfl⟩
    · simp at h
  · rintro ⟨zone, rfl⟩
    cases zone with
    | none => rfl
    | utc => rfl
    | offset negative hours minutes =>
      cases negative <;>
        simp [isZone, Zone.text, DigitPair.text, DigitPair.digits, digitText, isDigit_digitChar]

/-- A time zone cannot be taken for more digits or for a fraction. -/
theorem Zone.head_text (zone : Zone) : ∀ c ∈ zone.text.head?, isDigit c = false ∧ c ≠ '.' := by
  cases zone with
  | none => simp [text]
  | utc => simp [text, isDigit]
  | offset negative hours minutes => cases negative <;> simp [text, isDigit]

theorem exists_of_year? {cs digits rest : List Char} (h : year? cs = some (digits, rest)) :
    ∃ (negative : Bool) (ds : List (Fin 10)), 4 ≤ ds.length ∧ digits = digitText ds ∧
      cs = (if negative then ['-'] else []) ++ (digitText ds ++ rest) := by
  -- the rest behind the sign is split into its digits and what follows them
  have split_digits {cs : List Char}
      (h : (if 4 ≤ (cs.takeWhile isDigit).length then
        some (cs.takeWhile isDigit, cs.dropWhile isDigit) else none) = some (digits, rest)) :
      ∃ ds : List (Fin 10), 4 ≤ ds.length ∧ digits = digitText ds ∧ cs = digitText ds ++ rest := by
    obtain ⟨ds, behind, rfl, ends⟩ := exists_digitText_append cs
    obtain ⟨taken, dropped⟩ := takeWhile_digitText ds ends
    rw [taken, dropped, Option.ite_none_right_eq_some] at h
    obtain ⟨four_le, h⟩ := h
    obtain ⟨rfl, rfl⟩ := Prod.mk.inj (Option.some.inj h)
    exact ⟨ds, by simpa [digitText] using four_le, rfl, rfl⟩
  unfold year? at h
  dsimp only at h
  split at h
  · obtain ⟨ds, four_le, hdigits, rfl⟩ := split_digits h
    exact ⟨true, ds, four_le, hdigits, rfl⟩
  · obtain ⟨ds, four_le, hdigits, rfl⟩ := split_digits h
    exact ⟨false, ds, four_le, hdigits, rfl⟩

theorem year?_append (negative : Bool) {ds : List (Fin 10)} (four_le : 4 ≤ ds.length)
    {rest : List Char} (ends : ∀ c ∈ rest.head?, isDigit c = false) :
    year? ((if negative then ['-'] else []) ++ (digitText ds ++ rest)) =
      some (digitText ds, rest) := by
  obtain ⟨taken, dropped⟩ := takeWhile_digitText ds ends
  have length : 4 ≤ (digitText ds).length := by simpa [digitText] using four_le
  cases negative with
  | true => simp [year?, taken, dropped, length]
  | false =>
    unfold year?
    simp only [Bool.false_eq_true, if_false, List.nil_append]
    split
    · next begins =>
      cases ds with
      | nil => simp at four_le
      | cons d ds =>
        have minus : Nat.digitChar d = '-' := (List.cons.inj begins).1
        exact absurd (isDigit_digitChar d) (by simp [minus, isDigit])
    · rw [taken, dropped, if_pos length]

theorem getD_false_eq_true {o : Option Bool} : o.getD false = true ↔ o = some true := by
  cases o <;> simp

/-- What is written as a date is one if there is such a day. -/
theorem isDate_text (date : DateForm) (zone : Zone) : isDate (date.text ++ zone.text) =
    isDay (digitNumber date.year) date.month.number date.day.number := by
  have parts : date.text ++ zone.text = (if date.negative then ['-'] else []) ++
      (digitText date.year ++
        '-' :: (date.month.text ++ '-' :: (date.day.text ++ zone.text))) := by
    simp [DateForm.text]
  unfold isDate
  rw [parts, year?_append date.negative date.four_le (by simp [isDigit])]
  simp [after?_cons, twoDigits?_text, digitsValue_digitText, isZone_iff.2 ⟨zone, rfl⟩]

theorem isDate_iff {cs : List Char} : isDate cs = true ↔
    ∃ (date : DateForm) (zone : Zone), cs = date.text ++ zone.text ∧
      isDay (digitNumber date.year) date.month.number date.day.number = true := by
  unfold isDate
  dsimp only
  rw [getD_false_eq_true]
  constructor
  · intro h
    obtain ⟨⟨digits, rest₁⟩, hyear, h⟩ := Option.bind_eq_some_iff.1 h
    obtain ⟨rest₂, hyear_end, h⟩ := Option.bind_eq_some_iff.1 h
    obtain ⟨⟨month, rest₃⟩, hmonth, h⟩ := Option.bind_eq_some_iff.1 h
    obtain ⟨rest₄, hmonth_end, h⟩ := Option.bind_eq_some_iff.1 h
    obtain ⟨⟨day, rest⟩, hday, h⟩ := Option.bind_eq_some_iff.1 h
    obtain ⟨negative, year, four_le, rfl, rfl⟩ := exists_of_year? hyear
    obtain rfl := after?_eq_some_iff.1 hyear_end
    obtain ⟨month, rfl, rfl⟩ := twoDigits?_eq_some_iff.1 hmonth
    obtain rfl := after?_eq_some_iff.1 hmonth_end
    obtain ⟨day, rfl, rfl⟩ := twoDigits?_eq_some_iff.1 hday
    have both := Option.some.inj h
    rw [Bool.and_eq_true, isZone_iff, digitsValue_digitText] at both
    obtain ⟨exists_day, zone, rfl⟩ := both
    exact ⟨⟨negative, year, four_le, month, day⟩, zone, by simp [DateForm.text], exists_day⟩
  · rintro ⟨date, zone, rfl, exists_day⟩
    exact getD_false_eq_true.1 ((isDate_text date zone).trans exists_day)

theorem exists_of_seconds? {cs text rest : List Char} (h : seconds? cs = some (text, rest)) :
    ∃ (p : DigitPair) (fs : List (Fin 10)),
      text = p.text ++ fractionText fs ∧ cs = text ++ rest := by
  unfold seconds? at h
  rw [Option.bind_eq_bind, Option.bind_eq_some_iff] at h
  obtain ⟨⟨n, behind⟩, pair, h⟩ := h
  obtain ⟨p, rfl, -⟩ := twoDigits?_eq_some_iff.1 pair
  have taken : (p.text ++ behind).take 2 = p.text := by
    simp [DigitPair.text, DigitPair.digits, digitText]
  rw [taken] at h
  dsimp only at h
  split at h
  · next fraction =>
    obtain ⟨fs, behind, rfl, ends⟩ := exists_digitText_append fraction
    obtain ⟨digits, dropped⟩ := takeWhile_digitText fs ends
    rw [digits, dropped, Option.ite_none_left_eq_some] at h
    obtain ⟨some_digit, h⟩ := h
    obtain ⟨rfl, rfl⟩ := Prod.mk.inj (Option.some.inj h)
    have nonempty : fs ≠ [] := by simpa [digitText_eq_nil] using some_digit
    exact ⟨p, fs, by rw [fractionText, if_neg nonempty], by simp⟩
  · obtain ⟨rfl, rfl⟩ := Prod.mk.inj (Option.some.inj h)
    exact ⟨p, [], by simp [fractionText], rfl⟩

theorem seconds?_append (p : DigitPair) (fs : List (Fin 10)) {rest : List Char}
    (ends : ∀ c ∈ rest.head?, isDigit c = false ∧ c ≠ '.') :
    seconds? (p.text ++ (fractionText fs ++ rest)) = some (p.text ++ fractionText fs, rest) := by
  have taken : (p.text ++ (fractionText fs ++ rest)).take 2 = p.text := by
    simp [DigitPair.text, DigitPair.digits, digitText]
  unfold seconds?
  rw [twoDigits?_text, taken]
  simp only [Option.bind_eq_bind, Option.bind_some]
  by_cases empty : fs = []
  · rw [fractionText, if_pos empty, List.nil_append, List.append_nil]
    split
    · next point => simp at ends
    · rfl
  · obtain ⟨digits, dropped⟩ := takeWhile_digitText fs fun c hc => (ends c hc).1
    have some_digit : ¬ (digitText fs).isEmpty = true := by simpa [digitText_eq_nil] using empty
    rw [fractionText, if_neg empty]
    simp only [List.cons_append, digits, dropped]
    rw [if_neg some_digit]
    rfl

theorem read?_seconds (p : DigitPair) (fs : List (Fin 10)) :
    Binary64.read? (p.text ++ fractionText fs) =
      some (.ofDecimal false (digitNumber (p.digits ++ fs)) (-fs.length)) := by
  have fraction : Fraction (fractionText fs) fs := by
    unfold fractionText
    split
    · next empty =>
      rw [empty]
      exact .none
    · exact .point fs
  exact Binary64.read?_of_splitSign (Binary64.splitSign_digitText p.digits fraction) fraction
    (.inl (by simp [DigitPair.digits]))

theorem isTime_iff {cs : List Char} : isTime cs = true ↔
    ∃ (clock : ClockForm) (zone : Zone), cs = clock.text ++ zone.text ∧
      isTimeOfDay clock.hour.number clock.minute.number
        (.ofDecimal false (digitNumber (clock.second.digits ++ clock.fraction))
          (-clock.fraction.length)) = true := by
  unfold isTime
  dsimp only
  rw [getD_false_eq_true]
  constructor
  · intro h
    obtain ⟨⟨hour, rest₁⟩, hhour, h⟩ := Option.bind_eq_some_iff.1 h
    obtain ⟨rest₂, hhour_end, h⟩ := Option.bind_eq_some_iff.1 h
    obtain ⟨⟨minute, rest₃⟩, hminute, h⟩ := Option.bind_eq_some_iff.1 h
    obtain ⟨rest₄, hminute_end, h⟩ := Option.bind_eq_some_iff.1 h
    obtain ⟨⟨text, rest⟩, hsecond, h⟩ := Option.bind_eq_some_iff.1 h
    obtain ⟨value, hvalue, h⟩ := Option.bind_eq_some_iff.1 h
    obtain ⟨hour, rfl, rfl⟩ := twoDigits?_eq_some_iff.1 hhour
    obtain rfl := after?_eq_some_iff.1 hhour_end
    obtain ⟨minute, rfl, rfl⟩ := twoDigits?_eq_some_iff.1 hminute
    obtain rfl := after?_eq_some_iff.1 hminute_end
    obtain ⟨second, fs, rfl, rfl⟩ := exists_of_seconds? hsecond
    obtain rfl := Option.some.inj ((read?_seconds second fs).symm.trans hvalue)
    have both := Option.some.inj h
    rw [Bool.and_eq_true, isZone_iff] at both
    obtain ⟨valid, zone, rfl⟩ := both
    exact ⟨⟨hour, minute, second, fs⟩, zone, by simp [ClockForm.text], valid⟩
  · rintro ⟨clock, zone, rfl, valid⟩
    have parts : clock.text ++ zone.text = clock.hour.text ++ ':' :: (clock.minute.text ++ ':' ::
        (clock.second.text ++ (fractionText clock.fraction ++ zone.text))) := by
      simp [ClockForm.text]
    rw [parts]
    simp [after?_cons, twoDigits?_text, seconds?_append _ _ zone.head_text, read?_seconds, valid,
      isZone_iff.2 ⟨zone, rfl⟩]

/-! ## The calendar and the clock -/

/-- The rule for leap years does not depend on the sign of the year. -/
theorem isLeap_eq (year : Std.Time.Year.Offset) :
    year.isLeap = isLeapYear year.toInt.natAbs := by
  have divides (k : Nat) : year.toInt.tmod k = 0 ↔ year.toInt.natAbs % k = 0 := by
    rw [← Int.dvd_iff_tmod_eq_zero, ← Nat.dvd_iff_mod_eq_zero, Int.natCast_dvd]
  have four : year.toInt.tmod 4 = 0 ↔ _ := divides 4
  have hundred : year.toInt.tmod 100 = 0 ↔ _ := divides 100
  have fourHundred : year.toInt.tmod 400 = 0 ↔ _ := divides 400
  rw [Bool.eq_iff_iff, isLeapYear, Std.Time.Year.Offset.isLeap, decide_eq_true_iff, ne_eq, four,
    hundred, fourHundred]
  simp only [Bool.or_eq_true, Bool.and_eq_true, beq_iff_eq, bne_iff_ne]
  omega

theorem days_eq (year : Std.Time.Year.Offset) (month : Std.Time.Month.Ordinal) :
    (month.days year.isLeap).val = daysInMonth year.toInt.natAbs month.toNat := by
  rw [isLeap_eq, daysInMonth]
  generalize isLeapYear year.toInt.natAbs = leap
  obtain ⟨m, low, high⟩ := month
  interval_cases m <;> cases leap <;> rfl

theorem daysInMonth_le (year month : Nat) : daysInMonth year month ≤ 31 := by
  unfold daysInMonth
  split_ifs <;> decide

theorem month_bounds_of_le_daysInMonth {year month : Nat} (h : 1 ≤ daysInMonth year month) :
    1 ≤ month ∧ month ≤ 12 := by
  unfold daysInMonth at h
  simp only [List.mem_cons, List.not_mem_nil, or_false] at h
  split_ifs at h <;> omega

theorem natAbs_yearNumber (d : DateForm) : d.yearNumber.natAbs = digitNumber d.year := by
  unfold DateForm.yearNumber
  split <;> omega

theorem inCalendar_iff (d : DateForm) : d.InCalendar ↔
    1 ≤ d.day.number ∧ d.day.number ≤ daysInMonth (digitNumber d.year) d.month.number := by
  rw [← natAbs_yearNumber]
  constructor
  · rintro ⟨⟨year, month, ⟨day, low, high⟩, valid⟩, hyear, hmonth, hday⟩
    have le_days : day ≤ (month.days year.isLeap).val := valid
    rw [days_eq] at le_days
    change year.toInt = _ at hyear
    change month.toNat = _ at hmonth
    change day.toNat = _ at hday
    rw [← hyear, ← hmonth]
    omega
  · rintro ⟨low, high⟩
    have month_between := month_bounds_of_le_daysInMonth (low.trans high)
    have days_le := daysInMonth_le d.yearNumber.natAbs d.month.number
    let year : Std.Time.Year.Offset := .ofInt d.yearNumber
    let month : Std.Time.Month.Ordinal := ⟨d.month.number, by omega, by omega⟩
    let day : Std.Time.Day.Ordinal := ⟨d.day.number, by omega, by omega⟩
    refine ⟨⟨year, month, day, ?_⟩, rfl, rfl, rfl⟩
    show (d.day.number : Int) ≤ (month.days year.isLeap).val
    rw [days_eq]
    exact Int.ofNat_le.2 high

theorem isDay_iff (d : DateForm) :
    isDay (digitNumber d.year) d.month.number d.day.number = true ↔
      d.InCalendar ∧ digitNumber d.year ≤ maxYear := by
  rw [inCalendar_iff, isDay]
  simp only [Bool.and_eq_true, decide_eq_true_eq]
  omega

theorem isTimeOfDay_iff (c : ClockForm) :
    isTimeOfDay c.hour.number c.minute.number
        (.ofDecimal false (digitNumber (c.second.digits ++ c.fraction)) (-c.fraction.length)) =
      true ↔ c.OnClock := by
  unfold isTimeOfDay ClockForm.OnClock ClockForm.seconds
  rw [pointNumber_eq, ← Binary64.ofDecimal_eq_zero_iff, ← Binary64.ofDecimal_compare_sixty]
  split
  · next last => simp [last]
  · next other => simp [other, and_assoc]

/-! ## Dates with times -/

/-- The mark between date and time cannot stand inside a date. -/
theorem not_mem_date (date : DateForm) (zone : Zone) : 'T' ∉ date.text ++ zone.text := by
  have digits (ds : List (Fin 10)) : 'T' ∉ digitText ds := fun h =>
    ne_of_mem_digitText h (by decide) rfl
  rcases date with ⟨_ | _, year, _, month, day⟩ <;>
    rcases zone with _ | _ | ⟨_ | _, hours, minutes⟩ <;>
    simp [DateForm.text, Zone.text, DigitPair.text, digits]

theorem isDateTime_iff {cs : List Char} : isDateTime cs = true ↔
    ∃ before after, cs = before ++ 'T' :: after ∧ isDate before = true ∧ isTime after = true := by
  unfold isDateTime
  constructor
  · intro h
    split at h
    · next c time dropped =>
      rw [Bool.and_eq_true] at h
      have mark := List.head_dropWhile_not (· != 'T') (l := cs) (by simp [dropped])
      simp only [dropped, List.head_cons, bne_eq_false_iff_eq] at mark
      subst mark
      exact ⟨_, time, by rw [← dropped, List.takeWhile_append_dropWhile], h⟩
    · cases h
  · rintro ⟨before, after, rfl, date, time⟩
    obtain ⟨form, zone, rfl, -⟩ := isDate_iff.1 date
    have passes : ∀ c ∈ form.text ++ zone.text, (c != 'T') = true := fun c hc => by
      rw [bne_iff_ne]
      rintro rfl
      exact not_mem_date form zone hc
    rw [List.dropWhile_append_of_pos passes, List.takeWhile_append_of_pos passes]
    simp [date, time]

theorem check_dateTime (s : String) :
    Builtin.dateTime.check s = .ok () ↔ isDateTime s.toList = true :=
  Builtin.check_eq_ok_iff_hasForm rfl s

/-- A date with a time is a day of the calendar, `T` and a time of the day, and each of the two may
have a time zone of its own. -/
theorem check_dateTime_eq_ok_iff (s : String) : Builtin.dateTime.check s = .ok () ↔
    ∃ (date : DateForm) (dateZone : Zone) (clock : ClockForm) (zone : Zone),
      s.toList = date.text ++ dateZone.text ++ 'T' :: (clock.text ++ zone.text) ∧
        date.InCalendar ∧ digitNumber date.year ≤ maxYear ∧ clock.OnClock := by
  rw [check_dateTime, isDateTime_iff]
  constructor
  · rintro ⟨_, _, text, isDate, isTime⟩
    obtain ⟨date, dateZone, rfl, day⟩ := isDate_iff.1 isDate
    obtain ⟨clock, zone, rfl, time⟩ := isTime_iff.1 isTime
    obtain ⟨inCalendar, year_le⟩ := (isDay_iff date).1 day
    exact ⟨date, dateZone, clock, zone, text, inCalendar, year_le, (isTimeOfDay_iff clock).1 time⟩
  · rintro ⟨date, dateZone, clock, zone, text, inCalendar, year_le, onClock⟩
    have day := (isDay_iff date).2 ⟨inCalendar, year_le⟩
    have time := (isTimeOfDay_iff clock).2 onClock
    exact ⟨_, _, text, isDate_iff.2 ⟨date, dateZone, rfl, day⟩,
      isTime_iff.2 ⟨clock, zone, rfl, time⟩⟩

theorem check_dateTime_eq_ok_iff_two_zones :
    Builtin.dateTime.check "2024-02-29ZT24:00:00+01:00" = .ok () := by
  rw [check_dateTime_eq_ok_iff]
  let date : DateForm := ⟨false, [2, 0, 2, 4], by decide, ⟨0, 2⟩, ⟨2, 9⟩⟩
  let clock : ClockForm := ⟨⟨2, 4⟩, ⟨0, 0⟩, ⟨0, 0⟩, []⟩
  have seconds : clock.seconds = 0 := by
    have zero : digitNumber (clock.second.digits ++ clock.fraction) = 0 := by decide
    rw [ClockForm.seconds, pointNumber_eq, zero, Nat.cast_zero, zero_div]
  refine ⟨date, .utc, clock, .offset false ⟨0, 1⟩ ⟨0, 0⟩, rfl, (inCalendar_iff date).2 (by decide),
    by decide, .inl ⟨rfl, rfl, ?_⟩⟩
  rw [seconds]
  exact div_nonneg zero_le_one (pow_nonneg zero_le_two 1075)

end XmlSchema

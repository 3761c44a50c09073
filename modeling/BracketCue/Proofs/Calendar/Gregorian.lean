import BracketCue.Calendar
import Mathlib.Tactic.IntervalCases

/-!
# The Gregorian calendar

The rules of the calendar, for all years: which years are leap years and how long the months are.
From them come the days in front of a year and in front of a month, and with these a number for every
date, counted from the first of January 1970. The number tells dates apart and orders them, and
`dateOfDay`, which cuts days into cycles and years that begin in March, finds the date of a number.

* `daysBeforeYear_succ`, `daysBeforeMonth_succ`: a year and a month are as long as the rules say.
* `dayNumber_lt_iff`, `dayNumber_inj`: dates are numbered in order, and no two of them alike.
* `dayNumber_nextDay`: from one day to the next the numbers go up by one.
* `dateOfDay_spec`: the date found for a day is the one with this number.
-/
namespace BracketCue.Calendar

/-! ## The rules -/

/-- The year has a leap day: every fourth year, but of the full centuries only every fourth one. -/
def IsLeap (year : Int) : Prop :=
  year % 4 = 0 ∧ (year % 100 ≠ 0 ∨ year % 400 = 0)

instance (year : Int) : Decidable (IsLeap year) :=
  inferInstanceAs (Decidable (_ ∧ _))

def leapDays (year : Int) : Nat :=
  if IsLeap year then 1 else 0

/-- The days of a month, January being the first one. -/
def daysInMonth (year : Int) : Nat → Nat
  | 2 => 28 + leapDays year
  | 4 | 6 | 9 | 11 => 30
  | _ => 31

structure IsDate (year : Int) (month day : Nat) : Prop where
  month_pos : 1 ≤ month
  month_le : month ≤ 12
  day_pos : 1 ≤ day
  day_le : day ≤ daysInMonth year month

/-- The days from the first of January of the year 1 to that of a year. -/
def daysBeforeYear (year : Int) : Int :=
  365 * (year - 1) + (year - 1) / 4 - (year - 1) / 100 + (year - 1) / 400

/-- The days of a year in front of a month. -/
def daysBeforeMonth (year : Int) : Nat → Nat
  | 0 | 1 => 0
  | month + 2 => daysBeforeMonth year (month + 1) + daysInMonth year (month + 1)

/-- The number of a date, counted from the first of January 1970. -/
def dayNumber (year : Int) (month day : Nat) : Int :=
  daysBeforeYear year - daysBeforeYear 1970 + daysBeforeMonth year month + (day - 1)

def nextDay (year : Int) (month day : Nat) : Int × Nat × Nat :=
  if day < daysInMonth year month then (year, month, day + 1)
  else if month < 12 then (year, month + 1, 1)
  else (year + 1, 1, 1)

/-! ## Years and months -/

section
variable {year : Int} {month day : Nat}

theorem leapDays_cases (year : Int) :
    IsLeap year ∧ leapDays year = 1 ∨ ¬IsLeap year ∧ leapDays year = 0 := by
  by_cases h : IsLeap year
  · exact .inl ⟨h, if_pos h⟩
  · exact .inr ⟨h, if_neg h⟩

theorem daysBeforeYear_succ (year : Int) :
    daysBeforeYear (year + 1) = daysBeforeYear year + 365 + leapDays year := by
  rcases leapDays_cases year with ⟨leap, h⟩ | ⟨leap, h⟩
  · rw [h]
    simp only [IsLeap] at leap
    simp only [daysBeforeYear]
    omega
  · rw [h]
    simp only [IsLeap] at leap
    simp only [daysBeforeYear]
    omega

theorem daysBeforeYear_mono {year year' : Int} (h : year ≤ year') :
    daysBeforeYear year ≤ daysBeforeYear year' := by
  simp only [daysBeforeYear]
  omega

theorem daysBeforeMonth_succ (h : 1 ≤ month) :
    daysBeforeMonth year (month + 1) = daysBeforeMonth year month + daysInMonth year month := by
  obtain ⟨m, rfl⟩ : ∃ m, month = m + 1 := ⟨month - 1, by omega⟩
  rfl

theorem daysBeforeMonth_mono (year : Int) : Monotone (daysBeforeMonth year) := by
  refine monotone_nat_of_le_succ fun month => ?_
  cases month with
  | zero => exact Nat.le_refl 0
  | succ m => exact Nat.le_add_right _ _

/-- After the twelve months the year is over. -/
theorem daysBeforeMonth_year (year : Int) : daysBeforeMonth year 13 = 365 + leapDays year := by
  simp only [daysBeforeMonth, daysInMonth]
  omega

/-- From March on the days in front of the months do not depend on the year but for its leap day. -/
theorem daysBeforeMonth_march (year : Int) {m : Nat} (h : m ≤ 9) :
    daysBeforeMonth year (m + 3) = 59 + leapDays year + (153 * m + 2) / 5 := by
  interval_cases m <;> simp only [daysBeforeMonth, daysInMonth] <;> omega

end

/-! ## Dates in order -/

section
variable {year year' : Int} {month month' day day' : Nat}

theorem IsDate.inMonth (h : IsDate year month day) :
    daysBeforeMonth year month + day ≤ daysBeforeMonth year (month + 1) := by
  rw [daysBeforeMonth_succ h.month_pos]
  have := h.day_le
  omega

theorem IsDate.inYear (h : IsDate year month day) :
    daysBeforeMonth year month + day ≤ 365 + leapDays year := by
  have last := daysBeforeMonth_mono year (show month + 1 ≤ 13 by have := h.month_le; omega)
  rw [daysBeforeMonth_year] at last
  exact Nat.le_trans h.inMonth last

theorem IsDate.day_le_31 (h : IsDate year month day) : day ≤ 31 := by
  refine Nat.le_trans h.day_le ?_
  have := leapDays_cases year
  unfold daysInMonth
  split <;> omega

/-- A later date has a larger number. -/
theorem IsDate.dayNumber_lt (h : IsDate year month day) (h' : IsDate year' month' day')
    (before : year < year' ∨ year = year' ∧ (month < month' ∨ month = month' ∧ day < day')) :
    dayNumber year month day < dayNumber year' month' day' := by
  have pos := h'.day_pos
  simp only [dayNumber]
  rcases before with years | ⟨rfl, months | ⟨rfl, days⟩⟩
  · have := daysBeforeYear_mono (show year + 1 ≤ year' from years)
    have := daysBeforeYear_succ year
    have := h.inYear
    omega
  · have := daysBeforeMonth_mono year (show month + 1 ≤ month' from months)
    have := h.inMonth
    omega
  · omega

theorem dayNumber_lt_iff (h : IsDate year month day) (h' : IsDate year' month' day') :
    dayNumber year month day < dayNumber year' month' day' ↔
      year < year' ∨ year = year' ∧ (month < month' ∨ month = month' ∧ day < day') := by
  refine ⟨fun lt => ?_, h.dayNumber_lt h'⟩
  by_cases after : year' < year ∨ year' = year ∧ (month' < month ∨ month' = month ∧ day' < day)
  · have := h'.dayNumber_lt h after
    omega
  · by_cases same : year = year' ∧ month = month' ∧ day = day'
    · obtain ⟨rfl, rfl, rfl⟩ := same
      exact absurd lt (Int.lt_irrefl _)
    · omega

/-- No two dates have the same number. -/
theorem dayNumber_inj (h : IsDate year month day) (h' : IsDate year' month' day') :
    dayNumber year month day = dayNumber year' month' day' ↔
      year = year' ∧ month = month' ∧ day = day' := by
  have lt := dayNumber_lt_iff h h'
  have gt := dayNumber_lt_iff h' h
  constructor
  · intro same
    rw [same] at lt gt
    have : ¬dayNumber year' month' day' < dayNumber year' month' day' := Int.lt_irrefl _
    omega
  · rintro ⟨rfl, rfl, rfl⟩
    rfl

end

/-! ## The next day -/

theorem isDate_first (year : Int) {month : Nat} (pos : 1 ≤ month) (le : month ≤ 12) :
    IsDate year month 1 := by
  refine ⟨pos, le, Nat.le_refl 1, ?_⟩
  interval_cases month <;> simp only [daysInMonth] <;> omega

theorem IsDate.nextDay {year : Int} {month day : Nat} (h : IsDate year month day) :
    IsDate (nextDay year month day).1 (nextDay year month day).2.1
      (nextDay year month day).2.2 := by
  unfold Calendar.nextDay
  split
  · next inMonth => exact ⟨h.month_pos, h.month_le, Nat.le_add_left 1 _, inMonth⟩
  split
  · next inYear => exact isDate_first _ (Nat.le_add_left 1 _) inYear
  · exact isDate_first _ (Nat.le_refl 1) (Nat.le_add_left 1 11)

/-- The first day of a month follows the last one of the month before, and the first day of a year
the last one of December. -/
theorem dayNumber_nextDay {year : Int} {month day : Nat} (h : IsDate year month day) :
    dayNumber (nextDay year month day).1 (nextDay year month day).2.1 (nextDay year month day).2.2 =
      dayNumber year month day + 1 := by
  unfold nextDay
  split
  · simp only [dayNumber]
    omega
  next last =>
  have day_eq : day = daysInMonth year month := Nat.le_antisymm h.day_le (Nat.le_of_not_lt last)
  have ends := @daysBeforeMonth_succ year month h.month_pos
  split
  · simp only [dayNumber, ends, day_eq]
    omega
  · next december =>
    obtain rfl : month = 12 := Nat.le_antisymm h.month_le (Nat.le_of_not_lt december)
    rw [daysBeforeMonth_year] at ends
    have first : daysBeforeMonth (year + 1) 1 = 0 := rfl
    simp only [dayNumber, daysBeforeYear_succ, first, day_eq]
    omega

/-! ## The date of a number -/

/-- Of the parts into which a day of a cycle is cut, the century and the year may be the longer last
one. -/
theorem yearOfCycle_eq {day : Nat} (h : day < daysPerCycle) :
    ∃ century group year dayOfYear, century ≤ 3 ∧ group ≤ 24 ∧ year ≤ 3 ∧
      day = 36524 * century + 1461 * group + 365 * year + dayOfYear ∧
      (dayOfYear < 365 ∨ dayOfYear = 365 ∧ year = 3 ∧ (group < 24 ∨ century = 3)) ∧
      yearOfCycle day = (century * 100 + group * 4 + year, dayOfYear) := by
  have century_le : min (day / 36524) 3 ≤ 3 := Nat.min_le_right _ _
  generalize hc : min (day / 36524) 3 = century at century_le
  simp only [daysPerCycle] at h
  have inCentury : 36524 * century ≤ day ∧ day - 36524 * century ≤ 36524 ∧
      (day - 36524 * century = 36524 → century = 3) := by omega
  generalize hd : day - 36524 * century = rest at inCentury
  have group_le : rest / 1461 ≤ 24 := by omega
  have inGroup : rest % 1461 < 1461 ∧ (rest % 1461 = 1460 → rest / 1461 < 24 ∨ century = 3) := by
    omega
  have year_le : min (rest % 1461 / 365) 3 ≤ 3 := Nat.min_le_right _ _
  refine ⟨century, rest / 1461, min (rest % 1461 / 365) 3,
    rest % 1461 - min (rest % 1461 / 365) 3 * 365, century_le, group_le, year_le, ?_, ?_, ?_⟩
  · omega
  · omega
  · simp only [yearOfCycle, hc, Nat.mul_comm century 36524, hd]

/-- A day of a cycle is a day of one of its 400 years. Their leap days are at their ends, in February
of the next year by January. -/
theorem yearOfCycle_spec {day : Nat} (h : day < daysPerCycle) :
    (yearOfCycle day).1 < 400 ∧
      day + (yearOfCycle day).1 / 100 =
        365 * (yearOfCycle day).1 + (yearOfCycle day).1 / 4 + (yearOfCycle day).2 ∧
      (yearOfCycle day).2 < 365 + leapDays ((yearOfCycle day).1 + 1) := by
  obtain ⟨century, group, year, dayOfYear, hc, hg, hy, split, last, eq⟩ := yearOfCycle_eq h
  rw [eq]
  dsimp only
  refine ⟨by omega, by omega, ?_⟩
  rcases leapDays_cases (((century * 100 + group * 4 + year : Nat) : Int) + 1) with
    ⟨-, leap⟩ | ⟨common, leap⟩
  · rw [leap]
    omega
  · rw [leap]
    simp only [IsLeap] at common
    omega

/-- A day of a year that begins in March is a day of one of its twelve months. -/
theorem monthOfYear_spec {day : Nat} (h : day ≤ 365) :
    (monthOfYear day).1 ≤ 11 ∧ day = (153 * (monthOfYear day).1 + 2) / 5 + (monthOfYear day).2 ∧
      (153 * (monthOfYear day).1 + 2) / 5 + (monthOfYear day).2 <
        (153 * ((monthOfYear day).1 + 1) + 2) / 5 := by
  simp only [monthOfYear]
  omega

/-- From March to December a month ends where the next one begins in a year from March on. -/
theorem daysInMonth_march (year : Int) {m : Nat} (h : m ≤ 9) :
    daysInMonth year (m + 3) = (153 * (m + 1) + 2) / 5 - (153 * m + 2) / 5 := by
  interval_cases m <;> rfl

/-- The calendar repeats after the years of a cycle. -/
theorem daysBeforeYear_cycle (cycle : Int) {year : Nat} (h : year < 400) :
    daysBeforeYear (cycle * 400 + year + 1) =
      daysPerCycle * cycle + 365 * year + year / 4 - year / 100 := by
  simp only [daysBeforeYear, daysPerCycle]
  omega

theorem leapDays_cycle (cycle year : Int) : leapDays (cycle * 400 + year) = leapDays year := by
  have : IsLeap (cycle * 400 + year) ↔ IsLeap year := by
    simp only [IsLeap]
    omega
  simp only [leapDays, this]

/-- January and February are the last months of a year that began in the March before. -/
theorem isDate_newYear {year : Int} {month dayOfMonth : Nat} (month_ge : 10 ≤ month)
    (month_le : month ≤ 11)
    (inYear : (153 * month + 2) / 5 + dayOfMonth < 365 + leapDays year)
    (inMonth : (153 * month + 2) / 5 + dayOfMonth < (153 * (month + 1) + 2) / 5) :
    IsDate year (month - 9) (dayOfMonth + 1) ∧
      daysBeforeMonth year (month - 9) + 306 = (153 * month + 2) / 5 := by
  obtain rfl | rfl : month = 10 ∨ month = 11 := by omega
  · exact ⟨⟨by decide, by decide, by omega, show dayOfMonth + 1 ≤ 31 by omega⟩, rfl⟩
  · exact ⟨⟨by decide, by decide, by omega, show dayOfMonth + 1 ≤ 28 + leapDays year by omega⟩, rfl⟩

/-- From March to December the year is the one that began in March. -/
theorem isDate_march {year : Int} {month dayOfMonth : Nat} (month_le : month ≤ 9)
    (inMonth : (153 * month + 2) / 5 + dayOfMonth < (153 * (month + 1) + 2) / 5) :
    IsDate year (month + 3) (dayOfMonth + 1) := by
  have length := daysInMonth_march year month_le
  exact ⟨by omega, by omega, by omega, by omega⟩

/-- The date that is found for a day is a date of the calendar, and the one that has the number of
this day. -/
theorem dateOfDay_spec (day : Int) :
    IsDate (dateOfDay day).1 (dateOfDay day).2.1 (dateOfDay day).2.2 ∧
      dayNumber (dateOfDay day).1 (dateOfDay day).2.1 (dateOfDay day).2.2 = day - daysToEpoch := by
  have inCycle : (day % daysPerCycle).toNat < daysPerCycle := by
    simp only [daysPerCycle]
    omega
  have cycles : day = daysPerCycle * (day / daysPerCycle) + (day % daysPerCycle).toNat := by
    simp only [daysPerCycle]
    omega
  obtain ⟨year_lt, inYear, leap⟩ := yearOfCycle_spec inCycle
  rw [dateOfDay]
  generalize day / daysPerCycle = cycle at *
  generalize yearOfCycle (day % daysPerCycle).toNat = found at *
  obtain ⟨year, dayOfYear⟩ := found
  dsimp only at year_lt inYear leap ⊢
  have years := daysBeforeYear_cycle cycle year_lt
  have leap' : leapDays (cycle * 400 + year + 1) = leapDays (year + 1) := by
    rw [Int.add_assoc, leapDays_cycle]
  obtain ⟨month_le, inMonth, last⟩ := @monthOfYear_spec dayOfYear (by
    have := leapDays_cases (year + 1)
    omega)
  generalize monthOfYear dayOfYear = found at *
  obtain ⟨month, dayOfMonth⟩ := found
  dsimp only at month_le inMonth last ⊢
  have epoch : daysBeforeYear 1970 = 719162 := by decide
  split
  · next before =>
    have month_le : month ≤ 9 := by omega
    have next := daysBeforeYear_succ (cycle * 400 + year)
    have passed := daysBeforeMonth_march (cycle * 400 + year) month_le
    refine ⟨isDate_march month_le last, ?_⟩
    simp only [dayNumber, daysToEpoch, epoch, passed]
    omega
  · next after =>
    obtain ⟨date, passed⟩ := @isDate_newYear (cycle * 400 + year + 1) month dayOfMonth
      (by omega) month_le (by omega) last
    refine ⟨date, ?_⟩
    simp only [dayNumber, daysToEpoch, epoch]
    omega

end BracketCue.Calendar

/-!
# The Calendar

The Gregorian calendar, extended without end in both directions, and the count of its days from
1 January 1970. Years are counted as astronomers do: the year before 1 is 0.

## Main results

* `dayNumber_lt_iff` — days are numbered in the order of dates.
-/

namespace TagTimeline.Time

/-- Whether a year has a 29 February. -/
def isLeapYear (year : Int) : Bool :=
  year % 4 = 0 && (year % 100 != 0 || year % 400 = 0)

/-- The number of days of a month; none for a number that names no month. -/
def daysInMonth (year : Int) (month : Nat) : Nat :=
  if month = 2 then (if isLeapYear year then 29 else 28)
  else if month = 4 ∨ month = 6 ∨ month = 9 ∨ month = 11 then 30
  else if 1 ≤ month ∧ month ≤ 12 then 31
  else 0

/-- **The day's number**, counted from 1 January 1970. Years are taken to begin in March, so that
the day a leap year adds is the last of its year. -/
def dayNumber (year : Int) (month day : Nat) : Int :=
  let year := if month ≤ 2 then year - 1 else year
  let month : Int := if month ≤ 2 then month + 9 else (month : Int) - 3
  365 * year + year / 4 - year / 100 + year / 400 + (153 * month + 2) / 5 + day - 719469

/-- The year, month and day with a given number. -/
def ofDayNumber (number : Int) : Int × Nat × Nat :=
  let shifted := number + 719468
  let era := shifted / 146097
  let dayOfEra := shifted % 146097
  let yearOfEra := (dayOfEra - dayOfEra / 1460 + dayOfEra / 36524 - dayOfEra / 146096) / 365
  let dayOfYear := dayOfEra - (365 * yearOfEra + yearOfEra / 4 - yearOfEra / 100)
  let month := (5 * dayOfYear + 2) / 153
  let day := dayOfYear - (153 * month + 2) / 5 + 1
  let year := yearOfEra + era * 400
  if month < 10 then (year, (month + 3).toNat, day.toNat)
  else (year + 1, (month - 9).toNat, day.toNat)

/-! ### The order of days -/

section

variable {year year' : Int} {month month' day day' : Nat}

/-- A date that exists has a month of the year and a day of at most 31. -/
theorem month_le_of_daysInMonth (hday : 1 ≤ day) (h : day ≤ daysInMonth year month) :
    1 ≤ month ∧ month ≤ 12 ∧ day ≤ 31 := by
  rw [daysInMonth] at h
  grind

/-- A month ends before the next one begins. -/
theorem dayNumber_lt_nextMonth (hday : 1 ≤ day) (hlast : day ≤ daysInMonth year month)
    (hmonth : month < 12) : dayNumber year month day < dayNumber year (month + 1) 1 := by
  have hcases : month = 0 ∨ month = 1 ∨ month = 2 ∨ month = 3 ∨ month = 4 ∨ month = 5 ∨
      month = 6 ∨ month = 7 ∨ month = 8 ∨ month = 9 ∨ month = 10 ∨ month = 11 := by omega
  unfold daysInMonth isLeapYear at hlast
  unfold dayNumber
  rcases hcases with rfl | rfl | rfl | rfl | rfl | rfl | rfl | rfl | rfl | rfl | rfl | rfl
  case inr.inr.inl =>
    simp at hlast ⊢
    split at hlast <;> omega
  all_goals simp at hlast ⊢; omega

/-- The first days of months are in the order of months. -/
theorem dayNumber_month_le (hmonth : 1 ≤ month) (hle : month ≤ month') (hlast : month' ≤ 12) :
    dayNumber year month 1 ≤ dayNumber year month' 1 := by
  simp only [dayNumber]
  split <;> split <;> omega

/-- The first days of years are in the order of years. -/
theorem dayNumber_year_le (h : year ≤ year') : dayNumber year 1 1 ≤ dayNumber year' 1 1 := by
  simp [dayNumber]
  omega

/-- The days of a month are in their order. -/
theorem dayNumber_day_le (h : day ≤ day') :
    dayNumber year month day ≤ dayNumber year month day' := by
  simp only [dayNumber]
  omega

/-- A year ends before the next one begins. -/
theorem dayNumber_lt_nextYear (hday : 1 ≤ day) (hlast : day ≤ daysInMonth year month) :
    dayNumber year month day < dayNumber (year + 1) 1 1 := by
  have hmonth := month_le_of_daysInMonth hday hlast
  have hdecember : ∀ day ≤ 31, dayNumber year 12 day < dayNumber (year + 1) 1 1 := by
    intro day hday
    simp [dayNumber]
    omega
  by_cases h : month < 12
  · calc dayNumber year month day
        < dayNumber year (month + 1) 1 := dayNumber_lt_nextMonth hday hlast h
      _ ≤ dayNumber year 12 1 := dayNumber_month_le (by omega) h (Nat.le_refl 12)
      _ < dayNumber (year + 1) 1 1 := hdecember 1 (by decide)
  · obtain rfl : month = 12 := by omega
    exact hdecember day hmonth.2.2

/-- An earlier date has a smaller number. -/
theorem dayNumber_lt_dayNumber (hday : 1 ≤ day) (hlast : day ≤ daysInMonth year month)
    (hday' : 1 ≤ day') (hlast' : day' ≤ daysInMonth year' month')
    (h : year < year' ∨ year = year' ∧ (month < month' ∨ month = month' ∧ day < day')) :
    dayNumber year month day < dayNumber year' month' day' := by
  have hmonth := month_le_of_daysInMonth hday hlast
  have hmonth' := month_le_of_daysInMonth hday' hlast'
  rcases h with hyears | ⟨rfl, hmonths | ⟨rfl, hdays⟩⟩
  · calc dayNumber year month day
        < dayNumber (year + 1) 1 1 := dayNumber_lt_nextYear hday hlast
      _ ≤ dayNumber year' 1 1 := dayNumber_year_le hyears
      _ ≤ dayNumber year' month' 1 := dayNumber_month_le (Nat.le_refl 1) hmonth'.1 hmonth'.2.1
      _ ≤ dayNumber year' month' day' := dayNumber_day_le hday'
  · calc dayNumber year month day
        < dayNumber year (month + 1) 1 := dayNumber_lt_nextMonth hday hlast (by omega)
      _ ≤ dayNumber year month' 1 := dayNumber_month_le (by omega) hmonths hmonth'.2.1
      _ ≤ dayNumber year month' day' := dayNumber_day_le hday'
  · simp only [dayNumber]
    omega

/-- **Days are numbered in the order of dates.** -/
theorem dayNumber_lt_iff (hday : 1 ≤ day) (hlast : day ≤ daysInMonth year month)
    (hday' : 1 ≤ day') (hlast' : day' ≤ daysInMonth year' month') :
    dayNumber year month day < dayNumber year' month' day' ↔
      year < year' ∨ year = year' ∧ (month < month' ∨ month = month' ∧ day < day') := by
  refine ⟨fun h => ?_, dayNumber_lt_dayNumber hday hlast hday' hlast'⟩
  have hdates : (year < year' ∨ year = year' ∧ (month < month' ∨ month = month' ∧ day < day')) ∨
      (year = year' ∧ month = month' ∧ day = day') ∨
      (year' < year ∨ year' = year ∧ (month' < month ∨ month' = month ∧ day' < day)) := by omega
  rcases hdates with hbefore | ⟨rfl, rfl, rfl⟩ | hafter
  · exact hbefore
  · exact absurd h (Int.lt_irrefl _)
  · have := dayNumber_lt_dayNumber hday' hlast' hday hlast hafter
    omega

/-- Different dates have different numbers. -/
theorem dayNumber_eq_iff (hday : 1 ≤ day) (hlast : day ≤ daysInMonth year month)
    (hday' : 1 ≤ day') (hlast' : day' ≤ daysInMonth year' month') :
    dayNumber year month day = dayNumber year' month' day' ↔
      year = year' ∧ month = month' ∧ day = day' := by
  have hbefore := dayNumber_lt_iff hday hlast hday' hlast'
  have hafter := dayNumber_lt_iff hday' hlast' hday hlast
  refine ⟨fun h => ?_, fun ⟨hyear, hmonth, hday⟩ => by rw [hyear, hmonth, hday]⟩
  omega

end

end TagTimeline.Time

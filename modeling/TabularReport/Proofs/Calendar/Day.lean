import TabularReport.Calendar.Day

/-!
# Days and dates

Every day has one date, and the date names the day. An era has 400 years, which begin in March; a
year of an era ends with a leap day exactly when the calendar gives the year after its February one.
-/

namespace TabularReport.Calendar

/-- The year of an era on one of its days. -/
def yearOfEra (day : Nat) : Nat :=
  (day - day / 1460 + day / 36524 - day / 146096) / 365

/-- The number of days of an era before one of its years. -/
def daysBefore (year : Nat) : Nat := 365 * year + year / 4 - year / 100

-- What a day of an era other than its last has to do with its year: the century is that of the day,
-- and the leap years before it are those of the day, or one less.
private theorem yearOfEra_cases {day : Nat} (h : day < 146096) :
    yearOfEra day = (day - day / 1460 + day / 36524) / 365 ∧
      yearOfEra day / 100 = day / 36524 ∧ yearOfEra day / 4 ≤ day / 1460 ∧
      day / 1460 ≤ yearOfEra day / 4 + 1 := by
  have hlast : day / 146096 = 0 := Nat.div_eq_of_lt h
  have hyear : yearOfEra day = (day - day / 1460 + day / 36524) / 365 := by
    rw [yearOfEra, hlast, Nat.sub_zero]
  generalize yearOfEra day = year at hyear ⊢
  have hcenturies : day / 36524 = 0 ∨ day / 36524 = 1 ∨ day / 36524 = 2 ∨ day / 36524 = 3 := by
    omega
  have hcentury : year / 100 = day / 36524 := by
    rcases hcenturies with hc | hc | hc | hc <;> rw [hc] at hyear ⊢ <;> omega
  exact ⟨hyear, hcentury, by omega, by omega⟩

/-- An era has 400 years. -/
theorem yearOfEra_lt {day : Nat} (h : day < 146097) : yearOfEra day < 400 := by
  by_cases hlast : day = 146096
  · subst hlast
    decide
  · have := yearOfEra_cases (Nat.lt_of_le_of_ne (Nat.lt_succ_iff.mp h) hlast)
    omega

private theorem daysBefore_le {day : Nat} (h : day < 146097) :
    daysBefore (yearOfEra day) ≤ day := by
  by_cases hlast : day = 146096
  · subst hlast
    decide
  · have := yearOfEra_cases (Nat.lt_of_le_of_ne (Nat.lt_succ_iff.mp h) hlast)
    unfold daysBefore
    omega

private theorem sub_daysBefore_le {day : Nat} (h : day < 146097) :
    day - daysBefore (yearOfEra day) ≤ 365 := by
  by_cases hlast : day = 146096
  · subst hlast
    decide
  · have := yearOfEra_cases (Nat.lt_of_le_of_ne (Nat.lt_succ_iff.mp h) hlast)
    unfold daysBefore
    omega

private theorem isLeap_of_sub_daysBefore {day : Nat} (h : day < 146097)
    (h' : day - daysBefore (yearOfEra day) = 365) :
    (yearOfEra day + 1) % 4 = 0 ∧
      ((yearOfEra day + 1) % 100 ≠ 0 ∨ (yearOfEra day + 1) % 400 = 0) := by
  by_cases hlast : day = 146096
  · subst hlast
    decide
  · have hday : day < 146096 := Nat.lt_of_le_of_ne (Nat.lt_succ_iff.mp h) hlast
    obtain ⟨hyear, hcentury, hfours, hfours'⟩ := yearOfEra_cases hday
    have hlt := yearOfEra_lt h
    unfold daysBefore at h'
    generalize yearOfEra day = year at hyear hcentury hfours hfours' hlt h' ⊢
    rw [← hcentury] at hyear
    have hday : day + year / 100 = 365 * year + year / 4 + 365 := by omega
    have hcount : day / 1460 = year / 4 + 1 := by
      have hhigh : day + year / 100 < 365 * (year + 1) + day / 1460 := by omega
      omega
    clear hyear h'
    have hlast : year % 4 = 3 := by omega
    have hfour : (year + 1) % 4 = 0 := by omega
    have hcenturies : year / 100 = 0 ∨ year / 100 = 1 ∨ year / 100 = 2 ∨ year / 100 = 3 := by
      omega
    exact ⟨hfour, by rcases hcenturies with hc | hc | hc | hc <;> omega⟩

/-- The month that a day of a year lies in, counted from March. -/
def shiftedMonth (dayOfYear : Nat) : Nat := (5 * dayOfYear + 2) / 153

/-- The month of the calendar, for a month that is counted from March. -/
def monthOfShifted (shifted : Nat) : Nat := if shifted < 10 then shifted + 3 else shifted - 9

private theorem le_of_shiftedMonth (dayOfYear : Nat) :
    (153 * shiftedMonth dayOfYear + 2) / 5 ≤ dayOfYear := by
  unfold shiftedMonth
  omega

private theorem shiftedMonth_lt {dayOfYear : Nat} (h : dayOfYear ≤ 365) :
    shiftedMonth dayOfYear < 12 := by
  unfold shiftedMonth
  omega

private theorem monthOfShifted_add {shifted : Nat} (h : shifted < 12) :
    (monthOfShifted shifted + 9) % 12 = shifted := by
  unfold monthOfShifted
  split <;> omega

/-- The date of a day, told by the era, the day of the era, and the day of its year. -/
theorem dateOf_eq (day : Int) :
    ∃ (era : Int) (dayOfEra dayOfYear : Nat), dayOfEra < 146097 ∧
      day = era * 146097 + dayOfEra - 719468 ∧
      dayOfYear = dayOfEra - daysBefore (yearOfEra dayOfEra) ∧
      dateOf day =
        (if monthOfShifted (shiftedMonth dayOfYear) ≤ 2 then era * 400 + yearOfEra dayOfEra + 1
          else era * 400 + yearOfEra dayOfEra,
        monthOfShifted (shiftedMonth dayOfYear),
        dayOfYear - (153 * shiftedMonth dayOfYear + 2) / 5 + 1) := by
  refine ⟨(day + 719468).fdiv 146097,
    (day + 719468 - (day + 719468).fdiv 146097 * 146097).toNat, _, ?_, ?_, rfl, rfl⟩
  · rw [Int.fdiv_eq_ediv_of_nonneg _ (by decide)]
    omega
  · rw [Int.fdiv_eq_ediv_of_nonneg _ (by decide)]
    omega

private theorem dayNumber_shifted (era : Int) {year shifted : Nat} (hyear : year < 400)
    (hmonth : shifted < 12) (dayOfMonth : Nat) :
    dayNumber (if monthOfShifted shifted ≤ 2 then era * 400 + year + 1 else era * 400 + year)
        (monthOfShifted shifted) dayOfMonth =
      era * 146097 +
        ((year * 365 + year / 4 - year / 100 +
          ((153 * shifted + 2) / 5 + dayOfMonth - 1) : Nat) : Int) -
        719468 := by
  have hmarch : (if monthOfShifted shifted ≤ 2 then
      (if monthOfShifted shifted ≤ 2 then era * 400 + (year : Int) + 1 else era * 400 + year) - 1
      else if monthOfShifted shifted ≤ 2 then era * 400 + year + 1 else era * 400 + year) =
      era * 400 + (year : Int) := by
    split <;> omega
  have hera : (era * 400 + (year : Int)).fdiv 400 = era := by
    rw [Int.fdiv_eq_ediv_of_nonneg _ (by decide)]
    omega
  have hyearOfEra : (era * 400 + (year : Int) - era * 400).toNat = year := by omega
  simp only [dayNumber, hmarch, hera, hyearOfEra, monthOfShifted_add hmonth]

/-- The date of a day names it. -/
theorem dayNumber_dateOf (day : Int) :
    dayNumber (dateOf day).1 (dateOf day).2.1 (dateOf day).2.2 = day := by
  obtain ⟨era, dayOfEra, dayOfYear, hlt, hday, hdayOfYear, hdate⟩ := dateOf_eq day
  have hbefore := daysBefore_le hlt
  have hlength := sub_daysBefore_le hlt
  rw [← hdayOfYear] at hlength
  have hstart := le_of_shiftedMonth dayOfYear
  rw [hdate, dayNumber_shifted era (yearOfEra_lt hlt) (shiftedMonth_lt hlength), hday]
  dsimp only
  unfold daysBefore at hbefore hdayOfYear
  omega

/-- No month has more than 31 days. -/
theorem daysInMonth_le (year : Int) (month : Nat) : daysInMonth year month ≤ 31 := by
  unfold daysInMonth
  repeat' split
  all_goals decide

private theorem le_daysInMonth {dayOfYear : Nat} (year : Int) (h : dayOfYear ≤ 365)
    (hleap : dayOfYear = 365 → isLeapYear year) :
    dayOfYear - (153 * shiftedMonth dayOfYear + 2) / 5 + 1 ≤
      daysInMonth year (monthOfShifted (shiftedMonth dayOfYear)) := by
  have hmonth := shiftedMonth_lt h
  have hend : dayOfYear < (153 * (shiftedMonth dayOfYear + 1) + 2) / 5 := by
    unfold shiftedMonth
    omega
  by_cases hlast : shiftedMonth dayOfYear = 11
  · have hfebruary : daysInMonth year 2 = if isLeapYear year then 29 else 28 := rfl
    rw [hlast, show monthOfShifted 11 = 2 from rfl, hfebruary]
    split
    · omega
    · next hcommon =>
      have : dayOfYear ≠ 365 := mt hleap hcommon
      omega
  · generalize shiftedMonth dayOfYear = shifted at hmonth hlast hend ⊢
    have hcases : shifted = 0 ∨ shifted = 1 ∨ shifted = 2 ∨ shifted = 3 ∨ shifted = 4 ∨
      shifted = 5 ∨ shifted = 6 ∨ shifted = 7 ∨ shifted = 8 ∨ shifted = 9 ∨ shifted = 10 := by omega
    rcases hcases with rfl | rfl | rfl | rfl | rfl | rfl | rfl | rfl | rfl | rfl | rfl <;>
      simp [monthOfShifted, daysInMonth] at hend ⊢ <;> omega

private theorem isLeapYear_add (era : Int) {year : Nat}
    (h : (year + 1) % 4 = 0 ∧ ((year + 1) % 100 ≠ 0 ∨ (year + 1) % 400 = 0)) :
    isLeapYear (era * 400 + year + 1) := by
  simp only [isLeapYear, Bool.and_eq_true, Bool.or_eq_true, beq_iff_eq, bne_iff_ne]
  omega

/-- The date of a day is a date, when its year is representable. -/
theorem isDate_dateOf {day : Int} (hmin : minYear ≤ (dateOf day).1)
    (hmax : (dateOf day).1 ≤ maxYear) :
    isDate (dateOf day).1 (dateOf day).2.1 (dateOf day).2.2 := by
  obtain ⟨era, dayOfEra, dayOfYear, hlt, -, hdayOfYear, hdate⟩ := dateOf_eq day
  have hlength := sub_daysBefore_le hlt
  rw [← hdayOfYear] at hlength
  have hmonth := shiftedMonth_lt hlength
  have hdays := le_daysInMonth (dateOf day).1 hlength fun hlast ↦ by
    rw [hdate, hlast]
    exact isLeapYear_add era (isLeap_of_sub_daysBefore hlt (hdayOfYear ▸ hlast))
  rw [hdate] at hmin hmax hdays ⊢
  have hmonths : 1 ≤ monthOfShifted (shiftedMonth dayOfYear) ∧
      monthOfShifted (shiftedMonth dayOfYear) ≤ 12 := by
    unfold monthOfShifted
    split <;> omega
  simp only [isDate, Bool.and_eq_true, decide_eq_true_eq]
  exact ⟨⟨⟨⟨⟨hmin, hmax⟩, hmonths.1⟩, hmonths.2⟩, Nat.le_add_left 1 _⟩, hdays⟩

end TabularReport.Calendar

import Mathlib.Data.String.Basic
import Mathlib.Tactic.IntervalCases
import TabularReport.Calendar.Instant
import TabularReport.Proofs.Calendar.Day
import TabularReport.Proofs.Text.Numeral

/-!
# The order of dates

Dates come in the order of their years, months and days. The numbers of their days are in this
order, through the lengths of all months and years, and so are their texts of ten characters, in
which each number has a fixed width.
-/

namespace TabularReport

namespace Instant

/-- The order of instants is that of seconds, and of nanoseconds within a second. -/
theorem le_iff {a b : Instant} :
    a.le b = true ↔ a.seconds < b.seconds ∨ a.seconds = b.seconds ∧ a.nanos ≤ b.nanos := by
  simp [le]

/-- The order of instants is transitive. -/
theorem le_trans {a b c : Instant} (hab : a.le b = true) (hbc : b.le c = true) :
    a.le c = true := by
  rw [le_iff] at hab hbc ⊢
  omega

/-- Of two instants one is not after the other. -/
theorem le_total (a b : Instant) : a.le b = true ∨ b.le a = true := by
  rw [le_iff, le_iff]
  omega

end Instant

namespace Calendar

/-- The year of a month when years begin in March. -/
def marchYear (year : Int) (month : Nat) : Int := if month ≤ 2 then year - 1 else year

/-- The place of a month in a year that begins in March, counted from zero. -/
def fromMarch (month : Nat) : Nat := (month + 9) % 12

/-- The days from the start of March to the start of a month. -/
def monthStart (shifted : Nat) : Nat := (153 * shifted + 2) / 5

/-- The days from the start of March in the year 0 to the start of March in a year. -/
def yearStart (year : Int) : Int := 365 * year + year / 4 - year / 100 + year / 400

variable {year year' : Int} {month month' day day' : Nat}

/-- The number of a day counts the days of the years before, of the months before, and of its month.
-/
theorem dayNumber_eq (year : Int) (month day : Nat) :
    dayNumber year month day =
      yearStart (marchYear year month) + (monthStart (fromMarch month) + day - 1 : Nat) -
        719468 := by
  change _ = yearStart (if month ≤ 2 then year - 1 else year) +
    ((153 * ((month + 9) % 12) + 2) / 5 + day - 1 : Nat) - 719468
  unfold dayNumber yearStart
  dsimp only
  generalize (if month ≤ 2 then year - 1 else year) = march
  rw [Int.fdiv_eq_ediv_of_nonneg _ (by decide)]
  omega

private theorem yearStart_succ (year : Int) :
    yearStart (year + 1) = yearStart year + if isLeapYear (year + 1) then 366 else 365 := by
  have hleap : isLeapYear (year + 1) = true ↔
      (year + 1) % 4 = 0 ∧ ((year + 1) % 100 ≠ 0 ∨ (year + 1) % 400 = 0) := by
    simp [isLeapYear]
  unfold yearStart
  split
  · next h =>
    rw [hleap] at h
    omega
  · next h =>
    rw [hleap] at h
    omega

private theorem yearStart_succ_le (h : year < year') : yearStart (year + 1) ≤ yearStart year' := by
  unfold yearStart
  omega

private theorem monthStart_succ (year : Int) (hmonth : 1 ≤ month ∧ month ≤ 12) (hne : month ≠ 2) :
    monthStart (fromMarch month + 1) = monthStart (fromMarch month) + daysInMonth year month := by
  obtain ⟨hleast, hmost⟩ := hmonth
  interval_cases month <;> first | rfl | exact absurd rfl hne

/-- What it takes to be a date. -/
theorem isDate_iff :
    isDate year month day = true ↔
      (minYear ≤ year ∧ year ≤ maxYear) ∧ (1 ≤ month ∧ month ≤ 12) ∧
        1 ≤ day ∧ day ≤ daysInMonth year month := by
  simp only [isDate, Bool.and_eq_true, decide_eq_true_eq, and_assoc]

private theorem dayNumber_lt_yearStart (h : isDate year month day = true) :
    dayNumber year month day < yearStart (marchYear year month + 1) - 719468 := by
  obtain ⟨-, hmonth, hday⟩ := isDate_iff.mp h
  rw [dayNumber_eq, yearStart_succ]
  by_cases hfebruary : month = 2
  · subst hfebruary
    have hyear : marchYear year 2 + 1 = year := by
      rw [marchYear, if_pos (Nat.le_refl 2)]
      omega
    have hstart : monthStart (fromMarch 2) = 337 := rfl
    rw [show daysInMonth year 2 = if isLeapYear year then 29 else 28 from rfl] at hday
    rw [hyear, hstart]
    split at hday
    · next hleap =>
      rw [if_pos hleap]
      omega
    · next hleap =>
      rw [if_neg hleap]
      omega
  · have hnext := monthStart_succ year hmonth hfebruary
    have hend : monthStart (fromMarch month + 1) ≤ 337 := by
      unfold monthStart fromMarch
      omega
    split <;> omega

private theorem dayNumber_lt (h : isDate year month day = true)
    (h' : isDate year' month' day' = true)
    (hlt : year < year' ∨ year = year' ∧ (month < month' ∨ month = month' ∧ day < day')) :
    dayNumber year month day < dayNumber year' month' day' := by
  obtain ⟨-, hmonth, hday⟩ := isDate_iff.mp h
  obtain ⟨-, hmonth', hday'⟩ := isDate_iff.mp h'
  -- In the order of years from March on, the same dates come first.
  have hmarch : marchYear year month < marchYear year' month' ∨
      marchYear year month = marchYear year' month' ∧
        (fromMarch month < fromMarch month' ∨ month = month' ∧ day < day') := by
    unfold marchYear fromMarch
    split <;> split <;> omega
  rcases hmarch with hyear | ⟨hyear, hmonths | ⟨rfl, hdays⟩⟩
  · have hend := dayNumber_lt_yearStart h
    have hnext := yearStart_succ_le hyear
    rw [dayNumber_eq year' month' day']
    omega
  · have hne : month ≠ 2 := by
      rintro rfl
      unfold fromMarch at hmonths
      omega
    have hend := monthStart_succ year hmonth hne
    have hnext : monthStart (fromMarch month + 1) ≤ monthStart (fromMarch month') := by
      unfold monthStart
      omega
    rw [dayNumber_eq, dayNumber_eq, hyear]
    omega
  · rw [dayNumber_eq, dayNumber_eq, hyear]
    omega

private theorem dayNumber_lt_iff (h : isDate year month day = true)
    (h' : isDate year' month' day' = true) :
    dayNumber year month day < dayNumber year' month' day' ↔
      year < year' ∨ year = year' ∧ (month < month' ∨ month = month' ∧ day < day') := by
  refine ⟨fun hlt ↦ ?_, dayNumber_lt h h'⟩
  by_contra hnot
  have hcases : (year = year' ∧ month = month' ∧ day = day') ∨
      (year' < year ∨ year' = year ∧ (month' < month ∨ month' = month ∧ day' < day)) := by omega
  rcases hcases with ⟨rfl, rfl, rfl⟩ | hafter
  · exact Int.lt_irrefl _ hlt
  · exact Int.lt_asymm hlt (dayNumber_lt h' h hafter)

end Calendar

namespace Text

private theorem digit_lt_iff {c d : Char} (hc : isDigit c = true) (hd : isDigit d = true) :
    c < d ↔ digitValue c < digitValue d := by
  have hval : c < d ↔ c.toNat < d.toNat := Iff.rfl
  simp only [isDigit, Bool.and_eq_true, decide_eq_true_eq] at hc hd
  rw [hval]
  unfold digitValue
  omega

private theorem digit_inj {c d : Char} (hc : isDigit c = true) (hd : isDigit d = true) :
    c = d ↔ digitValue c = digitValue d := by
  refine ⟨fun h ↦ h ▸ rfl, fun h ↦ le_antisymm (not_lt.mp ?_) (not_lt.mp ?_)⟩
  · rw [digit_lt_iff hd hc, h]
    exact Nat.lt_irrefl _
  · rw [digit_lt_iff hc hd, h]
    exact Nat.lt_irrefl _

private theorem lt_iff_digitsValue_lt {ds es : List Char} (hd : ∀ c ∈ ds, isDigit c = true)
    (he : ∀ c ∈ es, isDigit c = true) (hlength : ds.length = es.length) :
    ds < es ↔ digitsValue ds < digitsValue es := by
  induction ds generalizing es with
  | nil =>
    rw [List.eq_nil_of_length_eq_zero hlength.symm]
    simp
  | cons c rest ih =>
    cases es with
    | nil => cases hlength
    | cons d more =>
      rw [List.forall_mem_cons] at hd he
      have hrest : rest.length = more.length := Nat.succ.inj hlength
      have hlow := digitsValue_lt hd.2
      have hhigh := digitsValue_lt he.2
      rw [List.cons_lt_cons_iff, ih hd.2 he.2 hrest, digit_lt_iff hd.1 he.1, digit_inj hd.1 he.1,
        digitsValue_cons, digitsValue_cons, hrest]
      rw [hrest] at hlow
      -- The part behind the first digit counts less than one in its place.
      have hcarry {m n : Nat} (hmn : m < n) :
          m * 10 ^ more.length + 10 ^ more.length ≤ n * 10 ^ more.length := by
        rw [← Nat.succ_mul]
        exact Nat.mul_le_mul_right _ hmn
      rcases Nat.lt_trichotomy (digitValue c) (digitValue d) with hlt | heq | hgt
      · have := hcarry hlt
        omega
      · rw [heq]
        omega
      · have := hcarry hgt
        omega

private theorem append_lt_append_iff {a b x y : List Char} (h : a.length = b.length) :
    a ++ x < b ++ y ↔ a < b ∨ a = b ∧ x < y := by
  induction a generalizing b with
  | nil =>
    rw [List.eq_nil_of_length_eq_zero h.symm]
    simp
  | cons c rest ih =>
    cases b with
    | nil => cases h
    | cons d more =>
      rw [List.cons_append, List.cons_append, List.cons_lt_cons_iff, List.cons_lt_cons_iff,
        ih (Nat.succ.inj h), List.cons.injEq]
      tauto

private theorem padZeros_append_lt_iff {width m n : Nat} (hwidth : 0 < width) (hm : m < 10 ^ width)
    (hn : n < 10 ^ width) (x y : List Char) :
    (padZeros width m).toList ++ x < (padZeros width n).toList ++ y ↔ m < n ∨ m = n ∧ x < y := by
  have hdm := isNumeral_padZeros width m
  have hdn := isNumeral_padZeros width n
  have hlength : (padZeros width m).toList.length = (padZeros width n).toList.length := by
    rw [length_padZeros hwidth hm, length_padZeros hwidth hn]
  have heq : (padZeros width m).toList = (padZeros width n).toList ↔ m = n := by
    refine ⟨fun h ↦ ?_, fun h ↦ h ▸ rfl⟩
    rw [← hdm.value, ← hdn.value, h]
  rw [append_lt_append_iff hlength, lt_iff_digitsValue_lt hdm.digits hdn.digits hlength, hdm.value,
    hdn.value, heq]

end Text

open Calendar Text

/-- A date as it is written: the year with four digits, the month and the day with two, or with more
where a number has more. -/
structure CalendarDate where
  year : Nat
  month : Nat
  day : Nat

namespace CalendarDate

/-- The text of a date. -/
def text (d : CalendarDate) : String :=
  padZeros 4 d.year ++ "-" ++ padZeros 2 d.month ++ "-" ++ padZeros 2 d.day

/-- Whether a date with a year of four digits is in the calendar. -/
structure IsValid (d : CalendarDate) : Prop where
  year : d.year ≤ 9999
  month : 1 ≤ d.month ∧ d.month ≤ 12
  day : 1 ≤ d.day ∧ d.day ≤ daysInMonth d.year d.month

instance (d : CalendarDate) : Decidable d.IsValid :=
  decidable_of_iff (d.year ≤ 9999 ∧ (1 ≤ d.month ∧ d.month ≤ 12) ∧
      1 ≤ d.day ∧ d.day ≤ daysInMonth d.year d.month)
    ⟨fun ⟨year, month, day⟩ ↦ ⟨year, month, day⟩, fun ⟨year, month, day⟩ ↦ ⟨year, month, day⟩⟩

/-- The start of a date in universal time. -/
def midnight (d : CalendarDate) : Instant := .ofCivil d.year d.month d.day 0 0 0 0

variable {d e : CalendarDate}

/-- The text of a date and what follows it. -/
theorem toList_text_append (d : CalendarDate) (tail : List Char) :
    d.text.toList ++ tail = (padZeros 4 d.year).toList ++ '-' :: ((padZeros 2 d.month).toList ++
      '-' :: ((padZeros 2 d.day).toList ++ tail)) := by
  have hmark : "-".toList = ['-'] := rfl
  simp only [text, String.toList_append, hmark, List.append_assoc, List.cons_append,
    List.nil_append]

/-- A date in the calendar is a representable one. -/
theorem IsValid.isDate (h : d.IsValid) : isDate d.year d.month d.day = true := by
  have hyear := h.year
  refine isDate_iff.mpr ⟨?_, h.month, h.day⟩
  unfold minYear maxYear
  omega

private theorem IsValid.text_lt_iff (hd : d.IsValid) (he : e.IsValid) :
    d.text < e.text ↔ d.year < e.year ∨ d.year = e.year ∧
      (d.month < e.month ∨ d.month = e.month ∧ d.day < e.day) := by
  have hdays {c : CalendarDate} (h : c.IsValid) : c.day < 10 ^ 2 := by
    have hlast := Nat.le_trans h.day.2 (daysInMonth_le _ _)
    omega
  have hmonths {c : CalendarDate} (h : c.IsValid) : c.month < 10 ^ 2 := by
    have hlast := h.month.2
    omega
  have hyears {c : CalendarDate} (h : c.IsValid) : c.year < 10 ^ 4 := Nat.lt_succ_of_le h.year
  rw [String.lt_iff_toList_lt, ← List.append_nil d.text.toList, ← List.append_nil e.text.toList,
    toList_text_append, toList_text_append,
    padZeros_append_lt_iff (by decide) (hyears hd) (hyears he), List.cons_lt_cons_iff,
    padZeros_append_lt_iff (by decide) (hmonths hd) (hmonths he), List.cons_lt_cons_iff,
    padZeros_append_lt_iff (by decide) (hdays hd) (hdays he)]
  simp

/-- Dates are in the order of their texts. -/
theorem IsValid.midnight_le_iff (hd : d.IsValid) (he : e.IsValid) :
    d.midnight.le e.midnight = true ↔ d.text ≤ e.text := by
  have hnumbers : d.midnight.le e.midnight = true ↔
      ¬ dayNumber e.year e.month e.day < dayNumber d.year d.month d.day := by
    rw [Instant.le_iff]
    simp only [midnight, Instant.ofCivil]
    omega
  rw [hnumbers, ← not_lt, he.text_lt_iff hd, dayNumber_lt_iff he.isDate hd.isDate]
  simp only [Nat.cast_lt, Nat.cast_inj]

end CalendarDate

end TabularReport

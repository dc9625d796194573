import TabularReport.Proofs.Calendar.DateOrder
import TabularReport.Proofs.Calendar.Writing
import TabularReport.Proofs.Text.Trim

/-!
# Instants as they are written

An instant is written as a date and a time of day, between which a letter or a blank stands, with or
without a zone behind them, or as a date alone, which means its midnight. Numbers that are out of
their ranges can be written too, but they mean no instant.
-/

namespace TabularReport

open Text Calendar

/-- A time of day as it is written: hour, minute and second with two digits, or with more where a
number has more, and the digits behind a point, when there is one. -/
structure ClockTime where
  hour : Nat
  minute : Nat
  second : Nat
  decimals : List Char := []
  areDigits : ∀ c ∈ decimals, isDigit c = true := by simp

namespace ClockTime

/-- The text of a time of day up to the second. -/
def wholeText (c : ClockTime) : String :=
  padZeros 2 c.hour ++ ":" ++ padZeros 2 c.minute ++ ":" ++ padZeros 2 c.second

/-- The text of the decimals of the second. -/
def pointText (c : ClockTime) : String :=
  if c.decimals = [] then "" else "." ++ String.ofList c.decimals

/-- The text of a time of day. -/
def text (c : ClockTime) : String := c.wholeText ++ c.pointText

/-- Whether a time of day is one. The sixtieth second is a leap second. -/
structure IsValid (c : ClockTime) : Prop where
  hour : c.hour ≤ 23
  minute : c.minute ≤ 59
  second : c.second ≤ 60

instance (c : ClockTime) : Decidable c.IsValid :=
  decidable_of_iff (c.hour ≤ 23 ∧ c.minute ≤ 59 ∧ c.second ≤ 60)
    ⟨fun ⟨hour, minute, second⟩ ↦ ⟨hour, minute, second⟩,
      fun ⟨hour, minute, second⟩ ↦ ⟨hour, minute, second⟩⟩

/-- The seconds of the day before a time of day. A leap second belongs to the second before it. -/
def seconds (c : ClockTime) : Nat := c.hour * 3600 + c.minute * 60 + min c.second 59

/-- The decimals of a second in nanoseconds, rounded down. -/
def fractionNanos (c : ClockTime) : Nat :=
  digitsValue c.decimals * 10 ^ 9 / 10 ^ c.decimals.length

/-- The nanoseconds behind the seconds of a time of day. -/
def nanos (c : ClockTime) : Nat := c.fractionNanos + if c.second = 60 then 10 ^ 9 else 0

variable {c : ClockTime}

/-- The text of a time of day up to the second and what follows it. -/
theorem toList_wholeText_append (c : ClockTime) (tail : List Char) :
    c.wholeText.toList ++ tail = (padZeros 2 c.hour).toList ++ ':' ::
      ((padZeros 2 c.minute).toList ++ ':' :: ((padZeros 2 c.second).toList ++ tail)) := by
  have hmark : ":".toList = [':'] := rfl
  simp only [wholeText, String.toList_append, hmark, List.append_assoc,
    List.cons_append, List.nil_append]

/-- Without a point there is no fraction. -/
theorem fractionNanos_of_pointText (h : c.pointText.toList = []) : c.fractionNanos = 0 := by
  have hnone : c.decimals = [] := by
    by_contra hsome
    rw [pointText, if_neg hsome, String.toList_append] at h
    cases h
  rw [fractionNanos, hnone, show digitsValue [] = 0 from rfl, Nat.zero_mul, Nat.zero_div]

private theorem IsValid.seconds_lt (h : c.IsValid) : c.seconds < 86400 := by
  have hhour := h.hour
  have hminute := h.minute
  unfold seconds
  omega

/-- The time of day with which a date begins. -/
def midnight : ClockTime where
  hour := 0
  minute := 0
  second := 0

/-- Midnight is a time of day. -/
theorem isValid_midnight : midnight.IsValid := ⟨by decide, by decide, by decide⟩

end ClockTime

/-- What is written of the zone behind a time of day: nothing, the letter of universal time, or by
how many hours and minutes the clock is ahead of universal time or behind it. -/
inductive Zone where
  | unmarked
  | universal
  | shifted (ahead : Bool) (hours minutes : Nat)

namespace Zone

/-- The text of a zone. -/
def text : Zone → String
  | unmarked => ""
  | universal => "Z"
  | shifted ahead hours minutes =>
    (if ahead then "+" else "-") ++ padZeros 2 hours ++ ":" ++ padZeros 2 minutes

/-- Whether a zone is less than a day away, with minutes that do not make an hour. -/
def IsValid : Zone → Prop
  | shifted _ hours minutes => hours ≤ 23 ∧ minutes ≤ 59
  | _ => True

instance : (z : Zone) → Decidable z.IsValid
  | unmarked => .isTrue trivial
  | universal => .isTrue trivial
  | shifted _ hours minutes => inferInstanceAs (Decidable (hours ≤ 23 ∧ minutes ≤ 59))

/-- By how many seconds a clock is ahead of universal time. -/
def offset : Zone → Int
  | shifted ahead hours minutes =>
    if ahead then (hours * 3600 + minutes * 60 : Nat) else -(hours * 3600 + minutes * 60 : Nat)
  | _ => 0

variable {z : Zone}

/-- The text of a zone with a sign. -/
theorem toList_shifted (ahead : Bool) (hours minutes : Nat) :
    (shifted ahead hours minutes).text.toList = (if ahead then '+' else '-') ::
      ((padZeros 2 hours).toList ++ ':' :: (padZeros 2 minutes).toList) := by
  have hmark : ":".toList = [':'] := rfl
  have hsign : (if ahead then "+" else "-" : String).toList = [if ahead then '+' else '-'] := by
    cases ahead <;> rfl
  simp only [text, String.toList_append, hmark, hsign, List.append_assoc, List.cons_append,
    List.nil_append]

/-- A zone does not begin with a digit or a point. -/
theorem head_text (z : Zone) : ∀ a ∈ z.text.toList.head?, isDigit a = false ∧ a ≠ '.' := by
  cases z with
  | unmarked => exact fun a ha ↦ nomatch ha
  | universal =>
    intro a ha
    rw [Option.mem_some.mp ha.symm]
    decide
  | shifted ahead hours minutes =>
    intro a ha
    rw [toList_shifted, List.head?_cons, Option.mem_some] at ha
    rw [← ha]
    cases ahead <;> decide

/-- Only a zone that is not marked is written as nothing. -/
theorem eq_unmarked_of_text (h : z.text.toList = []) : z = .unmarked := by
  cases z with
  | unmarked => rfl
  | universal => cases h
  | shifted ahead hours minutes =>
    rw [toList_shifted] at h
    cases h

/-- A zone is at least a minute less than a day away. -/
theorem IsValid.offset_le (h : z.IsValid) : -86340 ≤ z.offset ∧ z.offset ≤ 86340 := by
  cases z with
  | unmarked => decide
  | universal => decide
  | shifted ahead hours minutes =>
    obtain ⟨hhours, hminutes⟩ : hours ≤ 23 ∧ minutes ≤ 59 := h
    unfold offset
    dsimp only
    split <;> omega

/-- A zone is less than a day away. -/
theorem IsValid.offset_lt (h : z.IsValid) : -86400 < z.offset ∧ z.offset < 86400 := by
  have := h.offset_le
  omega

end Zone

/-- What stands between a date and a time of day. -/
inductive TimeMark where
  | letter
  | blank

/-- The character between a date and a time of day. -/
def TimeMark.char : TimeMark → Char
  | letter => 'T'
  | blank => ' '

/-- A date, or a date and a time of day, as it is written. -/
inductive WrittenInstant where
  | day (date : CalendarDate)
  | moment (date : CalendarDate) (mark : TimeMark) (clock : ClockTime) (zone : Zone)

namespace WrittenInstant

/-- The text of what is written. -/
def text : WrittenInstant → String
  | day date => date.text
  | moment date mark clock zone =>
    date.text ++ String.singleton mark.char ++ clock.text ++ zone.text

/-- Whether all that is written is in its range. -/
def IsValid : WrittenInstant → Prop
  | day date => date.IsValid
  | moment date _ clock zone => date.IsValid ∧ clock.IsValid ∧ zone.IsValid

instance : (w : WrittenInstant) → Decidable w.IsValid
  | day date => inferInstanceAs (Decidable date.IsValid)
  | moment date _ clock zone =>
    inferInstanceAs (Decidable (date.IsValid ∧ clock.IsValid ∧ zone.IsValid))

/-- The instant of a date and a time of day on a clock that is ahead of universal time by the given
seconds. -/
def instantAt (date : CalendarDate) (clock : ClockTime) (offset : Int) : Instant :=
  ⟨dayNumber date.year date.month date.day * 86400 + clock.seconds - offset, clock.nanos⟩

/-- The instant that is meant: a date means its midnight, and a time of day without a zone is one of
universal time. -/
def instant : WrittenInstant → Instant
  | day date => date.midnight
  | moment date _ clock zone => instantAt date clock zone.offset

variable {d : CalendarDate} {c : ClockTime} {z : Zone} {t : Instant}

/-! ### Texts -/

/-- The text of a date and a time of day, mark by mark. -/
theorem toList_moment (d : CalendarDate) (m : TimeMark) (c : ClockTime) (z : Zone) :
    (moment d m c z).text.toList = d.text.toList ++
      m.char :: (c.wholeText.toList ++ (c.pointText.toList ++ z.text.toList)) := by
  simp only [text, ClockTime.text, String.toList_append, String.toList_singleton,
    List.append_assoc, List.cons_append, List.nil_append]

private theorem isBlank_of_mem_clock {a : Char}
    (h : a ∈ c.wholeText.toList ++ (c.pointText.toList ++ z.text.toList)) : isBlank a = false := by
  have hdigits {n : Nat} (h : a ∈ (padZeros 2 n).toList) : isBlank a = false :=
    isBlank_eq_false_of_isDigit ((isNumeral_padZeros 2 n).digits a h)
  have hpoint (h : a ∈ c.pointText.toList) : isBlank a = false := by
    rw [ClockTime.pointText] at h
    split at h
    · cases h
    · rw [String.toList_append] at h
      rcases List.mem_append.mp h with h | h
      · rw [List.mem_singleton.mp h]
        decide
      · rw [String.toList_ofList] at h
        exact isBlank_eq_false_of_isDigit (c.areDigits a h)
  have hzone (h : a ∈ z.text.toList) : isBlank a = false := by
    cases z with
    | unmarked => cases h
    | universal =>
      rw [List.mem_singleton.mp h]
      decide
    | shifted ahead hours minutes =>
      rw [Zone.toList_shifted, List.mem_cons, List.mem_append, List.mem_cons] at h
      rcases h with rfl | h | rfl | h
      · cases ahead <;> decide
      · exact hdigits h
      · decide
      · exact hdigits h
  rw [ClockTime.toList_wholeText_append] at h
  simp only [List.mem_append, List.mem_cons] at h
  rcases h with h | rfl | h | rfl | h | h | h
  · exact hdigits h
  · decide
  · exact hdigits h
  · decide
  · exact hdigits h
  · exact hpoint h
  · exact hzone h

private theorem exists_toList_text (w : WrittenInstant) :
    (∃ n tail, w.text.toList = (padZeros 4 n).toList ++ tail) ∧
      ∃ front back, w.text.toList = front ++ back ∧ back ≠ [] ∧ ∀ a ∈ back, isBlank a = false := by
  cases w with
  | day d =>
    have htext := d.toList_text_append []
    rw [List.append_nil, List.append_nil] at htext
    refine ⟨⟨d.year, _, htext⟩, (padZeros 4 d.year).toList ++ '-' :: ((padZeros 2 d.month).toList ++
      ['-']), (padZeros 2 d.day).toList, ?_, padZeros_ne_nil 2 d.day,
      fun a ha ↦ isBlank_eq_false_of_isDigit ((isNumeral_padZeros 2 d.day).digits a ha)⟩
    rw [text, htext]
    simp only [List.append_assoc, List.cons_append, List.nil_append]
  | moment d m c z =>
    rw [toList_moment]
    refine ⟨⟨d.year, _, d.toList_text_append _⟩, d.text.toList ++ [m.char], _,
      List.append_cons _ m.char _, ?_, fun a ↦ isBlank_of_mem_clock⟩
    rw [ClockTime.toList_wholeText_append]
    exact List.append_ne_nil_of_left_ne_nil (padZeros_ne_nil 2 c.hour) _

/-- Blanks around what is written are dropped. -/
theorem trim_written (w : WrittenInstant) {before after : String}
    (hbefore : ∀ a ∈ before.toList, isBlank a = true)
    (hafter : ∀ a ∈ after.toList, isBlank a = true) :
    trim (before ++ w.text ++ after).toList = w.text.toList := by
  obtain ⟨⟨n, tail, hfront⟩, front, back, hend, hne, hback⟩ := exists_toList_text w
  rw [String.toList_append, String.toList_append]
  refine trim_append hbefore ?_ (fun a ha ↦ ?_) (fun a ha ↦ ?_) hafter
  · rw [hend]
    exact List.append_ne_nil_of_right_ne_nil front hne
  · rw [hfront, List.head?_append_of_ne_nil _ (padZeros_ne_nil 4 n)] at ha
    exact isBlank_eq_false_of_isDigit ((isNumeral_padZeros 4 n).digits a (List.mem_of_mem_head? ha))
  · rw [hend, List.getLast?_append_of_ne_nil _ hne] at ha
    exact hback a (List.mem_of_getLast? ha)

/-! ### Meaning -/

private theorem isRepresentable_of_days (hleast : -1000000 ≤ t.seconds.fdiv 86400)
    (hmost : t.seconds.fdiv 86400 ≤ 4000000) : t.isRepresentable = true := by
  obtain ⟨era, dayOfEra, dayOfYear, hlt, hday, -, hdate⟩ := dateOf_eq (t.seconds.fdiv 86400)
  have hyear := yearOfEra_lt hlt
  simp only [Instant.isRepresentable, hdate, Bool.and_eq_true, decide_eq_true_eq]
  unfold minYear maxYear
  split <;> omega

private theorem dayNumber_bounds {year day : Nat} (month : Nat) (hyear : year ≤ 9999)
    (hday : day ≤ 31) :
    -800000 ≤ dayNumber year month day ∧ dayNumber year month day ≤ 3000000 := by
  rw [dayNumber_eq]
  unfold yearStart marchYear monthStart fromMarch
  split <;> omega

private theorem instant_eq {k : Int} (hyear : d.year ≤ 9999) (hc : c.IsValid)
    (hk : -86400 < k ∧ k < 86400) :
    WrittenTime.instant ⟨d.year, d.month, d.day, c.hour, c.minute, c.second, c.fractionNanos⟩ k =
      if isDate d.year d.month d.day then .ok (instantAt d c k)
      else .error .outOfRange := by
  have hoffset : (decide (k ≤ -86400) || decide (86400 ≤ k)) = false := by
    simp only [Bool.or_eq_false_iff, decide_eq_false_iff_not]
    omega
  have hsecond : (if c.second = 60 then 59 else c.second) = min c.second 59 := by
    have := hc.second
    split <;> omega
  have hnanos : (if c.second = 60 then c.fractionNanos + 1000000000 else c.fractionNanos) =
      c.nanos := by
    unfold ClockTime.nanos
    split <;> rfl
  unfold WrittenTime.instant
  dsimp only
  rw [hsecond, hnanos, hoffset]
  cases hdate : isDate d.year d.month d.day with
  | false => rfl
  | true =>
    have hbounds := dayNumber_bounds d.month hyear
      (Nat.le_trans (isDate_iff.mp hdate).2.2.2 (daysInMonth_le _ _))
    have hclock := hc.seconds_lt
    have hrepresentable : (instantAt d c k).isRepresentable = true := by
      refine isRepresentable_of_days ?_ ?_ <;>
      · rw [instantAt, Int.fdiv_eq_ediv_of_nonneg _ (by decide)]
        dsimp only
        omega
    exact if_pos hrepresentable

/-- A date and a time of day that mean an instant are in the calendar, and it is theirs. -/
theorem instant_inv {k : Int} (hyear : d.year ≤ 9999) (hc : c.IsValid)
    (hk : -86400 < k ∧ k < 86400) (h : WrittenTime.instant
      ⟨d.year, d.month, d.day, c.hour, c.minute, c.second, c.fractionNanos⟩ k = .ok t) :
    d.IsValid ∧ t = instantAt d c k := by
  rw [instant_eq hyear hc hk] at h
  split at h
  · next hdate =>
    obtain ⟨-, hmonth, hday⟩ := isDate_iff.mp hdate
    exact ⟨⟨hyear, hmonth, hday⟩, (Except.ok.inj h).symm⟩
  · cases h

/-- A date in the calendar and a time of day mean an instant. -/
theorem instant_of_isValid {k : Int} (hd : d.IsValid) (hc : c.IsValid)
    (hk : -86400 < k ∧ k < 86400) : WrittenTime.instant
      ⟨d.year, d.month, d.day, c.hour, c.minute, c.second, c.fractionNanos⟩ k =
        .ok (instantAt d c k) := by
  rw [instant_eq hd.year hc hk, if_pos hd.isDate]

/-- A date begins with midnight in universal time. -/
theorem instantAt_midnight (d : CalendarDate) :
    instantAt d ClockTime.midnight 0 = d.midnight := by
  change Instant.mk (dayNumber d.year d.month d.day * 86400 + (0 : Nat) - 0) 0 = d.midnight
  rw [Int.sub_zero]
  rfl

end WrittenInstant

end TabularReport

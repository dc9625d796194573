import TabularReport.Proofs.Calendar.Inversion

/-!
# All spellings of an instant are read alike

What is written with all numbers in their ranges is accepted by one of the readings. The readings
that accept it agree on what it means, so that it does not matter which of them comes first: the
text is read as the instant that is meant, whatever white space stands around it.
-/

namespace TabularReport

open Text Calendar DateScan

namespace Instant

variable {d : CalendarDate} {c : ClockTime} {z : Zone}

private theorem dateParts_date (h : d.IsValid) (tail : List Char) :
    dateParts false (d.text.toList ++ tail) = .ok (d.year, d.month, d.day, tail) := by
  obtain ⟨⟨hmin, hmax⟩, hmonth, hday⟩ := isDate_iff.mp h.isDate
  have hyear : yearText d.year = padZeros 4 d.year := by
    have hfour : (decide (0 ≤ (d.year : Int)) && decide ((d.year : Int) ≤ 9999)) = true := by
      have := h.year
      simp only [Bool.and_eq_true, decide_eq_true_eq]
      omega
    rw [yearText, if_pos hfour, Int.natAbs_natCast]
  rw [d.toList_text_append, ← hyear]
  exact dateParts_text false hmin hmax hmonth ⟨hday.1, Nat.le_trans hday.2 (daysInMonth_le _ _)⟩

private theorem clockParts_clock {scan : DateScan Nat} (hscan : ReadsTwo scan) (h : c.IsValid)
    (tail : List Char) : clockParts scan false (c.wholeText.toList ++ tail) =
      .ok (c.hour, c.minute, c.second, tail) := by
  rw [ClockTime.toList_wholeText_append]
  exact clockParts_text hscan false h.hour h.minute h.second

private theorem offset_zone (h : z.IsValid) (hmarked : z ≠ .unmarked) :
    offset (char ':') z.text.toList = .ok (z.offset, []) := by
  cases z with
  | unmarked => exact absurd rfl hmarked
  | universal => rfl
  | shifted ahead hours minutes =>
    obtain ⟨hhours, hminutes⟩ : hours ≤ 23 ∧ minutes ≤ 59 := h
    have hlong : surplus 2 hours = [] := (surplus_eq_nil_iff (by decide)).mpr (by omega)
    have hfits : surplus 2 minutes = [] := (surplus_eq_nil_iff (by decide)).mpr (by omega)
    rw [offset_shifted ahead hlong, ← List.append_nil (padZeros 2 minutes).toList,
      offsetMinutes_padZeros, digitsValue_take_of_surplus hfits, if_neg (Nat.not_lt.mpr hminutes),
      hfits]
    rfl

private theorem ofCivilText_moment {m : TimeMark} {mark : DateScan Unit} (hd : d.IsValid)
    (hc : c.IsValid)
    (hmark : ∀ tail, mark (m.char :: (c.wholeText.toList ++ tail)) =
      .ok ((), c.wholeText.toList ++ tail)) :
    ofCivilText mark true (WrittenInstant.moment d m c .unmarked).text.toList =
      .ok (WrittenInstant.instantAt d c 0) := by
  rw [WrittenInstant.toList_moment, ofCivilText]
  refine Except.bind_eq_ok_iff.mpr ⟨_, dateParts_date hd _, ?_⟩
  refine Except.bind_eq_ok_iff.mpr ⟨_, hmark _, ?_⟩
  refine Except.bind_eq_ok_iff.mpr ⟨_, clockParts_clock readsTwo_padded hc _, ?_⟩
  refine Except.bind_eq_ok_iff.mpr ⟨_, fraction_pointText c (Zone.head_text .unmarked), ?_⟩
  exact WrittenInstant.instant_of_isValid hd hc (by decide)

private theorem ofRfc3339_moment (hd : d.IsValid) (m : TimeMark) (hc : c.IsValid) (hz : z.IsValid)
    (hmarked : z ≠ .unmarked) :
    ofRfc3339 (WrittenInstant.moment d m c z).text.toList =
      .ok (WrittenInstant.instantAt d c z.offset) := by
  have hday := Nat.le_trans hd.day.2 (daysInMonth_le _ _)
  have hmark (mark : Char) (rest : List Char) : char mark (mark :: rest) = .ok ((), rest) :=
    if_pos rfl
  have hseparator (rest : List Char) : separator (m.char :: rest) = .ok ((), rest) := by
    cases m <;> rfl
  rw [WrittenInstant.toList_moment, d.toList_text_append, ClockTime.toList_wholeText_append,
    ofRfc3339]
  refine Except.bind_eq_ok_iff.mpr
    ⟨_, number_padZeros_of_lt (by decide) (by decide) (Nat.lt_succ_of_le hd.year) _, ?_⟩
  refine Except.bind_eq_ok_iff.mpr ⟨_, hmark _ _, ?_⟩
  refine Except.bind_eq_ok_iff.mpr ⟨_, bounded_padZeros readsTwo_number (by decide) hd.month _, ?_⟩
  refine Except.bind_eq_ok_iff.mpr ⟨_, hmark _ _, ?_⟩
  refine Except.bind_eq_ok_iff.mpr
    ⟨_, bounded_padZeros readsTwo_number (by decide) ⟨hd.day.1, hday⟩ _, ?_⟩
  refine Except.bind_eq_ok_iff.mpr ⟨_, hseparator _, ?_⟩
  refine Except.bind_eq_ok_iff.mpr
    ⟨_, bounded_padZeros readsTwo_number (by decide) ⟨Nat.zero_le _, hc.hour⟩ _, ?_⟩
  refine Except.bind_eq_ok_iff.mpr ⟨_, hmark _ _, ?_⟩
  refine Except.bind_eq_ok_iff.mpr
    ⟨_, bounded_padZeros readsTwo_number (by decide) ⟨Nat.zero_le _, hc.minute⟩ _, ?_⟩
  refine Except.bind_eq_ok_iff.mpr ⟨_, hmark _ _, ?_⟩
  refine Except.bind_eq_ok_iff.mpr
    ⟨_, bounded_padZeros readsTwo_number (by decide) ⟨Nat.zero_le _, hc.second⟩ _, ?_⟩
  refine Except.bind_eq_ok_iff.mpr ⟨_, fraction_pointText c (Zone.head_text z), ?_⟩
  refine Except.bind_eq_ok_iff.mpr ⟨_, offset_zone hz hmarked, ?_⟩
  have hrange : (decide (z.offset < -86340) || decide (86340 < z.offset)) = false := by
    have := hz.offset_le
    simp only [Bool.or_eq_false_iff, decide_eq_false_iff_not]
    omega
  dsimp only
  rw [hrange]
  exact WrittenInstant.instant_of_isValid hd hc hz.offset_lt

private theorem exists_reading {w : WrittenInstant} (h : w.IsValid) :
    ∃ read ∈ readings, read w.text.toList = .ok w.instant := by
  cases w with
  | day d =>
    have hd : d.IsValid := h
    refine ⟨ofDateText, by simp [readings], ?_⟩
    change ofDateText d.text.toList = .ok d.midnight
    rw [ofDateText, ← List.append_nil d.text.toList, ← WrittenInstant.instantAt_midnight]
    have hinstant := WrittenInstant.instant_of_isValid (k := 0) hd ClockTime.isValid_midnight
      (by decide)
    rw [ClockTime.fractionNanos_of_pointText (c := ClockTime.midnight) rfl] at hinstant
    exact Except.bind_eq_ok_iff.mpr ⟨_, dateParts_date hd [], hinstant⟩
  | moment d m c z =>
    obtain ⟨hd, hc, hz⟩ : d.IsValid ∧ c.IsValid ∧ z.IsValid := h
    by_cases hmarked : z = .unmarked
    · subst hmarked
      cases m with
      | letter =>
        exact ⟨ofCivilText (char 'T') true, by simp [readings],
          ofCivilText_moment hd hc fun tail ↦ rfl⟩
      | blank =>
        refine ⟨ofCivilText blanks true, by simp [readings], ofCivilText_moment hd hc fun tail ↦ ?_⟩
        rw [blanks, ClockTime.toList_wholeText_append]
        exact congrArg (fun rest ↦ Except.ok ((), rest)) (trimLeft_append_of_isDigit
          (isNumeral_padZeros 2 c.hour).digits (padZeros_ne_nil 2 c.hour) _)
    · exact ⟨ofRfc3339, by simp [readings], ofRfc3339_moment hd m hc hz hmarked⟩

private theorem ofText?_written (w : WrittenInstant) {before after : String}
    (hbefore : ∀ a ∈ before.toList, isBlank a = true)
    (hafter : ∀ a ∈ after.toList, isBlank a = true) :
    ofText? (before ++ w.text ++ after) = if w.IsValid then some w.instant else none := by
  rw [ofText?, WrittenInstant.trim_written w hbefore hafter]
  have hfound {t : Instant}
      (h : readings.findSome? (fun read ↦ (read w.text.toList).toOption) = some t) :
      w.IsValid ∧ t = w.instant := by
    obtain ⟨read, hread, hok⟩ := List.exists_of_findSome?_eq_some h
    exact reading_inv hread (Except.toOption_eq_some_iff.mp hok)
  cases hresult : readings.findSome? (fun read ↦ (read w.text.toList).toOption) with
  | some t =>
    obtain ⟨hw, rfl⟩ := hfound hresult
    rw [if_pos hw]
  | none =>
    refine (if_neg fun hw ↦ ?_).symm
    obtain ⟨read, hread, hok⟩ := exists_reading hw
    have hnone := List.findSome?_eq_none_iff.mp hresult read hread
    rw [hok] at hnone
    cases hnone

/-- However an instant of a date with a year of four digits is written, it is read as the same
instant: with a letter or a blank before the time of day, with decimals or without, without a zone
or with the letter of universal time, and with blanks around it or not. A zone moves it by its
offset, and a date alone is its midnight. Nothing is read where a number is out of its range. Dates
are in the order of their texts. -/
theorem ofText?_spellings {before after : String} (hbefore : ∀ a ∈ before.toList, isBlank a = true)
    (hafter : ∀ a ∈ after.toList, isBlank a = true) :
    (∀ (d : CalendarDate) (m : TimeMark) (c : ClockTime), d.IsValid → c.IsValid →
      ofText? (before ++ (WrittenInstant.moment d m c .unmarked).text ++ after) =
          some (WrittenInstant.instantAt d c 0) ∧
        ofText? (before ++ (WrittenInstant.moment d m c .universal).text ++ after) =
          some (WrittenInstant.instantAt d c 0) ∧
        ∀ z : Zone, z.IsValid →
          ofText? (before ++ (WrittenInstant.moment d m c z).text ++ after) =
            some { WrittenInstant.instantAt d c 0 with
              seconds := (WrittenInstant.instantAt d c 0).seconds - z.offset }) ∧
      (∀ d : CalendarDate, d.IsValid → ofText? (before ++ d.text ++ after) = some d.midnight) ∧
      (∀ w : WrittenInstant, ¬ w.IsValid → ofText? (before ++ w.text ++ after) = none) ∧
      ∀ d e : CalendarDate, d.IsValid → e.IsValid →
        ∃ t u, ofText? (before ++ d.text ++ after) = some t ∧
          ofText? (before ++ e.text ++ after) = some u ∧ (t.le u = true ↔ d.text ≤ e.text) := by
  have hread {w : WrittenInstant} (h : w.IsValid) :
      ofText? (before ++ w.text ++ after) = some w.instant :=
    (ofText?_written w hbefore hafter).trans (if_pos h)
  have hday {d : CalendarDate} (h : d.IsValid) :
      ofText? (before ++ d.text ++ after) = some d.midnight :=
    hread (w := .day d) h
  refine ⟨fun d m c hd hc ↦ ⟨?_, ?_, fun z hz ↦ ?_⟩, fun d hd ↦ hday hd, fun w hw ↦ ?_,
    fun d e hd he ↦ ⟨_, _, hday hd, hday he, hd.midnight_le_iff he⟩⟩
  · exact hread (w := .moment d m c .unmarked) ⟨hd, hc, trivial⟩
  · exact hread (w := .moment d m c .universal) ⟨hd, hc, trivial⟩
  · rw [hread (w := .moment d m c z) ⟨hd, hc, hz⟩]
    simp only [WrittenInstant.instant, WrittenInstant.instantAt, Int.sub_zero]
  · exact (ofText?_written w hbefore hafter).trans (if_neg hw)

/-- A quarter of a second into the leap second at the end of a day. -/
def leapSecond : ClockTime where
  hour := 23
  minute := 59
  second := 60
  decimals := ['2', '5']
  areDigits := List.all_eq_true.mp rfl

/-- The leap second of a leap day, in universal time and behind it, and a day that there is not. -/
theorem ofText?_leapSecond :
    (∀ a ∈ " ".toList, isBlank a = true) ∧ (∀ a ∈ "\n".toList, isBlank a = true) ∧
      ofText? (" " ++ "2024-02-29 23:59:60.25" ++ "\n") = some ⟨1709251199, 1250000000⟩ ∧
      ofText? (" " ++ "2024-02-29T23:59:60.25-05:30" ++ "\n") =
        some ⟨1709251199 + 19800, 1250000000⟩ ∧
      ofText? (" " ++ "2023-02-29" ++ "\n") = none := by
  have hspace : ∀ a ∈ " ".toList, isBlank a = true := List.all_eq_true.mp rfl
  have hline : ∀ a ∈ "\n".toList, isBlank a = true := List.all_eq_true.mp rfl
  obtain ⟨hmoments, -, hnone, -⟩ := ofText?_spellings hspace hline
  have hdate : CalendarDate.IsValid ⟨2024, 2, 29⟩ := by decide
  have hclock : leapSecond.IsValid := by decide
  have hplain := (hmoments _ .blank _ hdate hclock).1
  have hshifted := (hmoments _ .letter _ hdate hclock).2.2 (.shifted false 5 30) (by decide)
  have hmissing := hnone (.day ⟨2023, 2, 29⟩) (by decide)
  have hplainText : (WrittenInstant.moment ⟨2024, 2, 29⟩ .blank leapSecond .unmarked).text =
      "2024-02-29 23:59:60.25" := by decide
  have hshiftedText : (WrittenInstant.moment ⟨2024, 2, 29⟩ .letter leapSecond
      (.shifted false 5 30)).text = "2024-02-29T23:59:60.25-05:30" := by decide
  have hmissingText : (WrittenInstant.day ⟨2023, 2, 29⟩).text = "2023-02-29" := by decide
  rw [hplainText] at hplain
  rw [hshiftedText] at hshifted
  rw [hmissingText] at hmissing
  exact ⟨hspace, hline, hplain, hshifted, hmissing⟩

end Instant

end TabularReport

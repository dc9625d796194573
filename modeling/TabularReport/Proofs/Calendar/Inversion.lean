import TabularReport.Proofs.Calendar.WrittenInstant

/-!
# What the readings of an instant accept

A reading that accepts the text of a date, with or without a time of day, has found the numbers that
are written there, all of them in their ranges. A number with more digits than a reading takes
leaves digits behind, and none of the readings goes on with a digit.
-/

namespace TabularReport

open Text Calendar DateScan Placeholder

namespace DateScan

variable {width n v low high : Nat} {c m : Char} {u : Unit} {cs more rest tail : List Char}
  {scan : DateScan Nat}

private theorem char_inv (h : char c cs = .ok (u, more)) : cs = c :: more := by
  cases cs with
  | nil => cases h
  | cons d rest =>
    rw [char] at h
    split at h
    · next hd =>
      cases h
      rw [hd]
    · cases h

private theorem exists_surplus (h : surplus width n ≠ []) :
    ∃ digit digits, surplus width n = digit :: digits ∧ isDigit digit = true := by
  obtain ⟨digit, digits, hs⟩ := List.exists_cons_of_ne_nil h
  have hmem : digit ∈ surplus width n := hs ▸ List.mem_cons_self
  exact ⟨digit, digits, hs, isDigit_of_mem_surplus hmem⟩

private theorem surplus_append_inv (hc : isDigit c = false)
    (h : surplus width n ++ rest = c :: more) :
    surplus width n = [] ∧ rest = c :: more := by
  have hfits : surplus width n = [] := by
    by_contra hlong
    obtain ⟨digit, digits, hs, hdigit⟩ := exists_surplus hlong
    rw [hs, List.cons_append, List.cons.injEq] at h
    rw [h.1, hc] at hdigit
    cases hdigit
  exact ⟨hfits, by rwa [hfits] at h⟩

private theorem number_inv {least most : Nat} {ds tail : List Char}
    (hdigits : ∀ a ∈ ds, isDigit a = true) (htail : startsWithDigit tail = false)
    (h : number least most (ds ++ tail) = .ok (v, cs)) :
    ∃ k, cs = ds.drop k ++ tail := by
  have hlength : (((ds ++ tail).take most).takeWhile isDigit).length ≤ ds.length := by
    rcases Nat.le_total most ds.length with hmost | hmost
    · exact Nat.le_trans (List.takeWhile_prefix _).length_le
        (Nat.le_trans (List.length_take_le _ _) hmost)
    · obtain ⟨k, rfl⟩ := Nat.exists_eq_add_of_le hmost
      have hnone : (tail.take k).takeWhile isDigit = [] := by
        cases tail with
        | nil => simp
        | cons x more =>
          cases k with
          | zero => rfl
          | succ k => exact List.takeWhile_cons_of_neg (by simpa [startsWithDigit] using htail)
      rw [List.take_length_add_append, List.takeWhile_append_of_pos hdigits, hnone,
        List.append_nil]
  rw [number] at h
  split at h
  · cases h
  · split at h
    · cases h
    · cases h
      exact ⟨_, List.drop_append_of_le_length hlength⟩

private theorem bounded_inv (hscan : ReadsTwo scan)
    (h : bounded scan low high ((padZeros 2 n).toList ++ rest) = .ok (v, cs)) :
    cs = surplus 2 n ++ rest ∧ (surplus 2 n = [] → v = n ∧ low ≤ n ∧ n ≤ high) := by
  rw [bounded, hscan] at h
  dsimp only at h
  split at h
  · next hrange =>
    cases h
    refine ⟨rfl, fun hs ↦ ?_⟩
    rw [digitsValue_take_of_surplus hs] at hrange ⊢
    simpa using hrange
  · cases h

private theorem bounded_mark_inv (hscan : ReadsTwo scan) (hm : isDigit m = false)
    (h : bounded scan low high ((padZeros 2 n).toList ++ c :: rest) = .ok (v, cs))
    (h' : char m cs = .ok (u, more)) : v = n ∧ (low ≤ n ∧ n ≤ high) ∧ more = rest := by
  obtain ⟨rfl, hvalue⟩ := bounded_inv hscan h
  obtain ⟨hs, hrest⟩ := surplus_append_inv hm (char_inv h')
  cases hrest
  obtain ⟨hv, hrange⟩ := hvalue hs
  exact ⟨hv, hrange, rfl⟩

private theorem year_mark_inv {least : Nat} (hleast : least ≤ 4) (hm : isDigit m = false)
    (h : number least 4 ((padZeros 4 n).toList ++ c :: rest) = .ok (v, cs))
    (h' : char m cs = .ok (u, more)) : v = n ∧ n ≤ 9999 ∧ more = rest := by
  rw [number_padZeros hleast] at h
  cases h
  obtain ⟨hs, hrest⟩ := surplus_append_inv hm (char_inv h')
  cases hrest
  have hlt : n < 10 ^ 4 := (surplus_eq_nil_iff (by decide)).mp hs
  exact ⟨digitsValue_take_of_surplus hs, Nat.le_of_lt_succ hlt, rfl⟩

private theorem fraction_of_ne_point (h : ∀ a ∈ cs.head?, a ≠ '.') : fraction cs = .ok (0, cs) := by
  cases cs with
  | nil => rfl
  | cons a rest =>
    unfold fraction
    split
    · next heq =>
      cases heq
      exact absurd rfl (h '.' rfl)
    · rfl

private theorem fraction_surplus {n : Nat} (hlong : surplus 2 n ≠ []) :
    fraction (surplus 2 n ++ tail) = .ok (0, surplus 2 n ++ tail) := by
  obtain ⟨digit, digits, hs, hdigit⟩ := exists_surplus hlong
  rw [hs]
  refine fraction_of_ne_point fun a ha hpoint ↦ ?_
  rw [← Option.mem_some.mp ha] at hpoint
  rw [hpoint] at hdigit
  cases hdigit

private theorem separator_surplus_inv {n : Nat}
    (h : separator (surplus 2 n ++ tail) = .ok ((), cs)) :
    surplus 2 n = [] ∧ ∃ mark, tail = mark :: cs := by
  have hfits : surplus 2 n = [] := by
    by_contra hlong
    obtain ⟨digit, digits, hs, hdigit⟩ := exists_surplus hlong
    rw [hs, List.cons_append, separator] at h
    split at h
    · next hmark =>
      simp only [Bool.or_eq_true, decide_eq_true_eq] at hmark
      rcases hmark with (rfl | rfl) | rfl <;> cases hdigit
    · cases h
  refine ⟨hfits, ?_⟩
  rw [hfits, List.nil_append] at h
  cases tail with
  | nil => cases h
  | cons mark more =>
    rw [separator] at h
    split at h
    · exact ⟨mark, congrArg (mark :: ·) (Prod.mk.inj (Except.ok.inj h)).2⟩
    · cases h

private theorem offset_surplus {n : Nat} (hlong : surplus 2 n ≠ []) {between : DateScan Unit}
    {parts : Int × List Char} : offset between (surplus 2 n ++ tail) ≠ .ok parts := by
  obtain ⟨digit, digits, hs, hdigit⟩ := exists_surplus hlong
  simp only [isDigit, Bool.and_eq_true, decide_eq_true_eq] at hdigit
  intro h
  rw [hs, List.cons_append, offset] at h
  split at h
  · next hletter =>
    simp only [Bool.or_eq_true, decide_eq_true_eq] at hletter
    rcases hletter with rfl | rfl <;> exact absurd hdigit (by decide)
  · split at h
    · next hsign =>
      simp only [Bool.or_eq_true, decide_eq_true_eq] at hsign
      rcases hsign with (rfl | rfl) | hminus
      · exact absurd hdigit (by decide)
      · exact absurd hdigit (by decide)
      · omega
    · cases h

/-- The decimals of a time of day are read as its nanoseconds. -/
theorem fraction_pointText (c : ClockTime) (h : ∀ a ∈ tail.head?, isDigit a = false ∧ a ≠ '.') :
    fraction (c.pointText.toList ++ tail) = .ok (c.fractionNanos, tail) := by
  have hnodigit : startsWithDigit tail = false := by
    cases tail with
    | nil => rfl
    | cons a rest => exact (h a rfl).1
  rw [ClockTime.pointText]
  split
  · next hnone =>
    have hpoint : c.pointText.toList = [] := by simp [ClockTime.pointText, hnone]
    rw [ClockTime.fractionNanos_of_pointText hpoint]
    exact fraction_of_ne_point fun a ha ↦ (h a ha).2
  · next hsome =>
    rw [String.toList_append]
    change DateScan.decimals ((String.ofList c.decimals).toList ++ tail) = _
    rw [String.toList_ofList, decimals_append c.areDigits hsome hnodigit, ClockTime.fractionNanos]

private theorem exists_twoDigits (n : Nat) :
    ∃ a b, isDigit a = true ∧ isDigit b = true ∧
      digitsValue [a, b] = digitsValue ((padZeros 2 n).toList.take 2) ∧
      ∀ rest, twoDigits ((padZeros 2 n).toList ++ rest) = .ok (a, b, surplus 2 n ++ rest) := by
  have hlength := le_length_padZeros 2 n
  have hdigits := (isNumeral_padZeros 2 n).digits
  unfold surplus
  generalize (padZeros 2 n).toList = ds at hlength hdigits ⊢
  match ds, hlength with
  | a :: b :: more, _ =>
    refine ⟨a, b, hdigits a (by simp), hdigits b (by simp), rfl, fun rest ↦ ?_⟩
    have hbytes : ¬ byteLength (a :: b :: more ++ rest) < 2 := by
      have := length_le_byteLength (a :: b :: more ++ rest)
      simp only [List.length_append, List.length_cons] at this
      omega
    unfold twoDigits
    rw [if_neg hbytes]
    rfl

/-- The minutes of an offset are read when they do not make an hour. -/
theorem offsetMinutes_padZeros (n : Nat) (rest : List Char) :
    offsetMinutes ((padZeros 2 n).toList ++ rest) =
      if 59 < digitsValue ((padZeros 2 n).toList.take 2) then .error .outOfRange
      else .ok (digitsValue ((padZeros 2 n).toList.take 2), surplus 2 n ++ rest) := by
  obtain ⟨a, b, ha, hb, hvalue, htwo⟩ := exists_twoDigits n
  have htens : 59 < digitsValue [a, b] ↔ 5 < digitValue a := by
    have hlow := digitValue_lt hb
    have hsum : digitsValue [a, b] = digitValue a * 10 + digitValue b := by
      rw [digitsValue_cons, digitsValue_cons]
      simp [digitsValue]
    omega
  rw [offsetMinutes, htwo, ← hvalue]
  simp only [ha, hb, htens, Bool.not_true, Bool.or_self, Bool.false_eq_true, if_false]

/-- An offset is read by its sign, its hours and its minutes. -/
theorem offset_shifted (ahead : Bool) {hours : Nat} (h : surplus 2 hours = []) (minutes : Nat) :
    offset (char ':') (Zone.shifted ahead hours minutes).text.toList =
      (offsetMinutes (padZeros 2 minutes).toList).map fun (m, last) =>
        ((Zone.shifted ahead hours m).offset, last) := by
  obtain ⟨a, b, ha, hb, hvalue, htwo⟩ := exists_twoDigits hours
  rw [digitsValue_take_of_surplus h] at hvalue
  have hmark (rest : List Char) : char ':' (':' :: rest) = .ok ((), rest) := rfl
  rw [Zone.toList_shifted, offset, htwo, h, List.nil_append]
  dsimp only
  rw [hmark]
  dsimp only
  cases ahead <;> cases offsetMinutes (padZeros 2 minutes).toList <;>
    simp [ha, hb, hvalue, Zone.offset, Except.map]

private theorem offset_shifted_surplus {ahead : Bool} {hours minutes : Nat}
    (hlong : surplus 2 hours ≠ []) {parts : Int × List Char} :
    offset (char ':') (Zone.shifted ahead hours minutes).text.toList ≠ .ok parts := by
  intro h
  obtain ⟨a, b, ha, hb, -, htwo⟩ := exists_twoDigits hours
  rw [Zone.toList_shifted, offset, htwo] at h
  dsimp only at h
  cases hmark : char ':' (surplus 2 hours ++ ':' :: (padZeros 2 minutes).toList) with
  | error e =>
    rw [hmark] at h
    cases ahead <;> simp [ha, hb] at h
  | ok parts => exact hlong (surplus_append_inv rfl (char_inv hmark)).1

private theorem offset_inv {z : Zone} {k : Int} (h : offset (char ':') z.text.toList = .ok (k, []))
    (hleast : ¬ k < -86340) (hmost : ¬ 86340 < k) : z ≠ .unmarked ∧ z.IsValid ∧ k = z.offset := by
  cases z with
  | unmarked => cases h
  | universal =>
    cases h
    exact ⟨by simp, trivial, rfl⟩
  | shifted ahead hours minutes =>
    have hfits : surplus 2 hours = [] := by
      by_contra hlong
      exact offset_shifted_surplus hlong h
    rw [offset_shifted ahead hfits, ← List.append_nil (padZeros 2 minutes).toList,
      offsetMinutes_padZeros] at h
    split at h
    · cases h
    · next hminutes =>
      rw [List.append_nil] at h
      have hnil : surplus 2 minutes = [] := (Prod.mk.inj (Except.ok.inj h)).2
      have hk := (Prod.mk.inj (Except.ok.inj h)).1
      rw [digitsValue_take_of_surplus hnil] at hminutes hk
      subst hk
      have hhours : hours ≤ 23 := by
        cases ahead
        · simp only [Zone.offset, Bool.false_eq_true, if_false] at hleast
          omega
        · simp only [Zone.offset, if_true] at hmost
          omega
      exact ⟨by simp, ⟨hhours, Nat.not_lt.mp hminutes⟩, rfl⟩

end DateScan

namespace Instant

variable {d : CalendarDate} {c : ClockTime} {z : Zone} {cs tail : List Char} {t : Instant}

private theorem eq_nil_of_isEmpty {left : List Char} {x : Except DateError Instant}
    (h : (if (!left.isEmpty) = true then .error .tooLong else x) = .ok t) :
    left = [] ∧ x = .ok t := by
  cases left with
  | nil => exact ⟨rfl, h⟩
  | cons a rest => cases h

/-! ### Parts of a date and a time of day -/

private theorem dateParts_inv {year : Int} {month day : Nat}
    (h : dateParts false (d.text.toList ++ tail) = .ok (year, month, day, cs)) :
    d.year ≤ 9999 ∧ year = d.year ∧ month = d.month ∧ cs = surplus 2 d.day ++ tail ∧
      (surplus 2 d.day = [] → day = d.day) := by
  rw [d.toList_text_append, dateParts, trimLeft_append_of_isDigit
    (isNumeral_padZeros 4 d.year).digits (padZeros_ne_nil 4 d.year), signedYear_padZeros] at h
  obtain ⟨⟨y, afterYear⟩, hyear, h⟩ := Except.bind_eq_ok_iff.mp h
  rw [number_padZeros (by decide)] at hyear
  cases hyear
  dsimp only at h
  split at h
  · cases h
  · obtain ⟨⟨u, afterYear⟩, hmark, h⟩ := Except.bind_eq_ok_iff.mp h
    obtain ⟨⟨m, monthLeft⟩, hmonth, h⟩ := Except.bind_eq_ok_iff.mp h
    obtain ⟨⟨u', afterMonth⟩, hmark', h⟩ := Except.bind_eq_ok_iff.mp h
    obtain ⟨⟨v, dayLeft⟩, hday, h⟩ := Except.bind_eq_ok_iff.mp h
    cases h
    obtain ⟨hyear, hlast, rfl⟩ := year_mark_inv (Nat.le_refl 4) rfl
      (number_padZeros (Nat.le_refl 4) _ _) hmark
    obtain ⟨rfl, -, rfl⟩ := bounded_mark_inv readsTwo_padded rfl hmonth hmark'
    obtain ⟨rfl, hvalue⟩ := bounded_inv readsTwo_padded hday
    exact ⟨hlast, congrArg Nat.cast hyear, rfl, rfl, fun hs ↦ (hvalue hs).1⟩

private theorem clockParts_inv {scan : DateScan Nat} (hscan : ReadsTwo scan)
    {hour minute second : Nat}
    (h : clockParts scan false (c.wholeText.toList ++ tail) = .ok (hour, minute, second, cs)) :
    (hour = c.hour ∧ c.hour ≤ 23) ∧ (minute = c.minute ∧ c.minute ≤ 59) ∧
      cs = surplus 2 c.second ++ tail ∧
      (surplus 2 c.second = [] → second = c.second ∧ c.second ≤ 60) := by
  rw [ClockTime.toList_wholeText_append, clockParts] at h
  obtain ⟨⟨a, hourLeft⟩, hhour, h⟩ := Except.bind_eq_ok_iff.mp h
  obtain ⟨⟨u, afterHour⟩, hmark, h⟩ := Except.bind_eq_ok_iff.mp h
  obtain ⟨⟨b, minuteLeft⟩, hminute, h⟩ := Except.bind_eq_ok_iff.mp h
  obtain ⟨⟨u', afterMinute⟩, hmark', h⟩ := Except.bind_eq_ok_iff.mp h
  obtain ⟨⟨v, secondLeft⟩, hsecond, h⟩ := Except.bind_eq_ok_iff.mp h
  cases h
  obtain ⟨rfl, hhour, rfl⟩ := bounded_mark_inv hscan rfl hhour hmark
  obtain ⟨rfl, hminute, rfl⟩ := bounded_mark_inv hscan rfl hminute hmark'
  obtain ⟨rfl, hvalue⟩ := bounded_inv hscan hsecond
  refine ⟨⟨rfl, hhour.2⟩, ⟨rfl, hminute.2⟩, rfl, fun hs ↦ ?_⟩
  exact ⟨(hvalue hs).1, (hvalue hs).2.2⟩

private theorem timeParts_digits {ds : List Char} (hdigits : ∀ a ∈ ds, isDigit a = true)
    (hne : ds ≠ []) (htail : ∀ a ∈ tail.head?, isDigit a = false ∧ a ≠ ':')
    {parts : Nat × Nat × Nat × List Char} :
    timeParts false (ds ++ tail) ≠ .ok parts := by
  intro h
  rw [timeParts] at h
  obtain ⟨⟨a, hourLeft⟩, hhour, h⟩ := Except.bind_eq_ok_iff.mp h
  obtain ⟨⟨u, afterHour⟩, hmark, h⟩ := Except.bind_eq_ok_iff.mp h
  have hcolon : hourLeft = ':' :: afterHour := char_inv hmark
  have hnodigit : startsWithDigit tail = false := by
    cases tail with
    | nil => rfl
    | cons x more => exact (htail x rfl).1
  have hread : ∃ v, number 1 2 (ds ++ tail) = .ok (v, hourLeft) := by
    rw [bounded, padded, trimLeft_append_of_isDigit hdigits hne] at hhour
    split at hhour
    · cases hhour
    · next v rest hv =>
      split at hhour
      · cases hhour
        exact ⟨_, hv⟩
      · cases hhour
  obtain ⟨v, hread⟩ := hread
  obtain ⟨k, hleft⟩ := number_inv hdigits hnodigit hread
  rw [hcolon] at hleft
  cases hmore : ds.drop k with
  | nil =>
    rw [hmore, List.nil_append] at hleft
    exact (htail ':' (hleft ▸ rfl)).2 rfl
  | cons x more =>
    rw [hmore, List.cons_append, List.cons.injEq] at hleft
    have hx := hdigits x (List.mem_of_mem_drop (hmore ▸ List.mem_cons_self))
    rw [← hleft.1] at hx
    cases hx

private theorem timeParts_letter (rest : List Char) {parts : Nat × Nat × Nat × List Char} :
    timeParts false ('T' :: rest) ≠ .ok parts := by
  intro h
  rw [timeParts] at h
  obtain ⟨⟨hour, hourLeft⟩, hhour, -⟩ := Except.bind_eq_ok_iff.mp h
  have hnumber : ∀ parts, number 1 2 ('T' :: rest) ≠ .ok parts := by
    intro parts hread
    rw [number] at hread
    split at hread <;> cases hread
  rw [bounded, padded, show trimLeft ('T' :: rest) = 'T' :: rest from rfl] at hhour
  split at hhour
  · cases hhour
  · next hread => exact hnumber _ hread

/-! ### Dates and times without a zone -/

private theorem ofCivilText_inv {mark : DateScan Unit} {decimals : Bool}
    (hmark : mark = char 'T' ∨ mark = blanks)
    (htail : ∀ a ∈ tail.head?, isDigit a = false ∧ a ≠ ':')
    (h : ofCivilText mark decimals (d.text.toList ++ tail) = .ok t) :
    d.year ≤ 9999 ∧ ∃ more hour minute second left nanos, mark tail = .ok ((), more) ∧
      timeParts false more = .ok (hour, minute, second, left) ∧
      (if decimals then fraction left else .ok (0, left)) = .ok (nanos, []) ∧
      WrittenTime.instant ⟨d.year, d.month, d.day, hour, minute, second, nanos⟩ 0 = .ok t := by
  rw [ofCivilText] at h
  obtain ⟨⟨year, month, day, dayLeft⟩, hdate, h⟩ := Except.bind_eq_ok_iff.mp h
  obtain ⟨hlast, rfl, rfl, rfl, hday⟩ := dateParts_inv hdate
  obtain ⟨⟨u, more⟩, hread, h⟩ := Except.bind_eq_ok_iff.mp h
  obtain ⟨⟨hour, minute, second, left⟩, htime, h⟩ := Except.bind_eq_ok_iff.mp h
  -- A day that is too long leaves digits, which neither a mark nor a time of day begins with.
  have hfits : surplus 2 d.day = [] := by
    by_contra hlong
    rcases hmark with rfl | rfl
    · exact hlong (surplus_append_inv rfl (char_inv hread)).1
    · rw [blanks, trimLeft_append_of_isDigit (fun _ ↦ isDigit_of_mem_surplus) hlong] at hread
      cases hread
      exact timeParts_digits (fun _ ↦ isDigit_of_mem_surplus) hlong htail htime
  rw [hfits, List.nil_append] at hread
  obtain rfl := hday hfits
  have hrest : ∃ nanos, (if decimals then fraction left else .ok (0, left)) = .ok (nanos, []) ∧
      WrittenTime.instant ⟨d.year, d.month, d.day, hour, minute, second, nanos⟩ 0 = .ok t := by
    cases decimals with
    | true =>
      obtain ⟨⟨nanos, rest⟩, hfraction, h⟩ := Except.bind_eq_ok_iff.mp h
      obtain ⟨rfl, hinstant⟩ := eq_nil_of_isEmpty h
      exact ⟨nanos, hfraction, hinstant⟩
    | false =>
      obtain ⟨rfl, hinstant⟩ := eq_nil_of_isEmpty h
      exact ⟨0, rfl, hinstant⟩
  obtain ⟨nanos, hfraction, hinstant⟩ := hrest
  exact ⟨hlast, more, hour, minute, second, left, nanos, hread, htime, hfraction, hinstant⟩

private theorem ofCivilText_moment_inv {mark : DateScan Unit} {decimals : Bool} {m : TimeMark}
    (hmark : mark = char 'T' ∨ mark = blanks)
    (h : ofCivilText mark decimals (WrittenInstant.moment d m c z).text.toList = .ok t) :
    d.year ≤ 9999 ∧ c.IsValid ∧ z = .unmarked ∧ WrittenTime.instant
      ⟨d.year, d.month, d.day, c.hour, c.minute, c.second, c.fractionNanos⟩ 0 = .ok t := by
  rw [WrittenInstant.toList_moment] at h
  obtain ⟨hlast, more, hour, minute, second, left, nanos, hread, htime, hfraction, hinstant⟩ :=
    ofCivilText_inv hmark (by cases m <;> simp [TimeMark.char] <;> decide) h
  have hmore : more = c.wholeText.toList ++ (c.pointText.toList ++ z.text.toList) := by
    rcases hmark with rfl | rfl
    · exact (List.cons.inj (char_inv hread)).2.symm
    · have htrim : more = trimLeft (m.char ::
          (c.wholeText.toList ++ (c.pointText.toList ++ z.text.toList))) :=
        (Prod.mk.inj (Except.ok.inj hread)).2.symm
      cases m with
      | letter =>
        rw [htrim] at htime
        exact absurd htime (timeParts_letter _)
      | blank =>
        rw [htrim, ClockTime.toList_wholeText_append]
        exact trimLeft_append_of_isDigit (isNumeral_padZeros 2 c.hour).digits
          (padZeros_ne_nil 2 c.hour) _
  rw [hmore] at htime
  obtain ⟨⟨rfl, hhour⟩, ⟨rfl, hminute⟩, rfl, hsecond⟩ := clockParts_inv readsTwo_padded htime
  -- A second that is too long leaves digits, with which neither decimals nor a zone begin.
  have hfits : surplus 2 c.second = [] := by
    by_contra hlong
    rw [fraction_surplus hlong, ite_self] at hfraction
    have hnil := (Prod.mk.inj (Except.ok.inj hfraction)).2
    exact hlong (List.append_eq_nil_iff.mp hnil).1
  obtain ⟨rfl, hmost⟩ := hsecond hfits
  rw [hfits, List.nil_append] at hfraction
  have hend : nanos = c.fractionNanos ∧ z.text.toList = [] := by
    rw [fraction_pointText c (Zone.head_text z)] at hfraction
    cases decimals with
    | true =>
      obtain ⟨hnanos, hzone⟩ := Prod.mk.inj (Except.ok.inj hfraction)
      exact ⟨hnanos.symm, hzone⟩
    | false =>
      obtain ⟨hnanos, hnil⟩ := Prod.mk.inj (Except.ok.inj hfraction)
      obtain ⟨hpoint, hzone⟩ := List.append_eq_nil_iff.mp hnil
      exact ⟨hnanos.symm.trans (ClockTime.fractionNanos_of_pointText hpoint).symm, hzone⟩
  rw [hend.1] at hinstant
  exact ⟨hlast, ⟨hhour, hminute, hmost⟩, Zone.eq_unmarked_of_text hend.2, hinstant⟩

private theorem ofCivilText_day {mark : DateScan Unit} {decimals : Bool}
    (hmark : mark = char 'T' ∨ mark = blanks) :
    ofCivilText mark decimals d.text.toList ≠ .ok t := by
  intro h
  rw [← List.append_nil d.text.toList] at h
  obtain ⟨-, more, hour, minute, second, left, nanos, hread, htime, -⟩ :=
    ofCivilText_inv hmark (by simp) h
  rcases hmark with rfl | rfl
  · cases hread
  · cases hread
    rw [timeParts] at htime
    obtain ⟨parts, hhour, -⟩ := Except.bind_eq_ok_iff.mp htime
    cases hhour

private theorem ofDateText_inv (h : ofDateText (d.text.toList ++ tail) = .ok t) :
    tail = [] ∧ d.year ≤ 9999 ∧
      WrittenTime.instant ⟨d.year, d.month, d.day, 0, 0, 0, 0⟩ 0 = .ok t := by
  rw [ofDateText] at h
  obtain ⟨⟨year, month, day, left⟩, hdate, h⟩ := Except.bind_eq_ok_iff.mp h
  obtain ⟨hlast, rfl, rfl, rfl, hday⟩ := dateParts_inv hdate
  obtain ⟨hempty, hinstant⟩ := eq_nil_of_isEmpty h
  obtain ⟨hfits, htail⟩ := List.append_eq_nil_iff.mp hempty
  obtain rfl := hday hfits
  exact ⟨htail, hlast, hinstant⟩

/-! ### The strict form -/

private theorem ofRfc3339_inv (h : ofRfc3339 (d.text.toList ++ tail) = .ok t) :
    d.year ≤ 9999 ∧ ∃ mark more, tail = mark :: more ∧
      ∃ hour minute second left nanos zone k,
        clockParts (number 2 2) false more = .ok (hour, minute, second, left) ∧
        fraction left = .ok (nanos, zone) ∧ offset (char ':') zone = .ok (k, []) ∧
        (-86340 ≤ k ∧ k ≤ 86340) ∧
        WrittenTime.instant ⟨d.year, d.month, d.day, hour, minute, second, nanos⟩ k = .ok t := by
  rw [d.toList_text_append, ofRfc3339] at h
  obtain ⟨⟨year, yearLeft⟩, hyear, h⟩ := Except.bind_eq_ok_iff.mp h
  obtain ⟨⟨u, afterYear⟩, hmark, h⟩ := Except.bind_eq_ok_iff.mp h
  obtain ⟨⟨month, monthLeft⟩, hmonth, h⟩ := Except.bind_eq_ok_iff.mp h
  obtain ⟨⟨u', afterMonth⟩, hmark', h⟩ := Except.bind_eq_ok_iff.mp h
  obtain ⟨⟨day, dayLeft⟩, hday, h⟩ := Except.bind_eq_ok_iff.mp h
  obtain ⟨⟨u'', more⟩, hseparator, h⟩ := Except.bind_eq_ok_iff.mp h
  obtain ⟨⟨hour, hourLeft⟩, hhour, h⟩ := Except.bind_eq_ok_iff.mp h
  obtain ⟨⟨v, afterHour⟩, hcolon, h⟩ := Except.bind_eq_ok_iff.mp h
  obtain ⟨⟨minute, minuteLeft⟩, hminute, h⟩ := Except.bind_eq_ok_iff.mp h
  obtain ⟨⟨v', afterMinute⟩, hcolon', h⟩ := Except.bind_eq_ok_iff.mp h
  obtain ⟨⟨second, left⟩, hsecond, h⟩ := Except.bind_eq_ok_iff.mp h
  obtain ⟨⟨nanos, zone⟩, hfraction, h⟩ := Except.bind_eq_ok_iff.mp h
  obtain ⟨⟨k, rest⟩, hoffset, h⟩ := Except.bind_eq_ok_iff.mp h
  have hclock : clockParts (number 2 2) false more = .ok (hour, minute, second, left) := by
    refine Except.bind_eq_ok_iff.mpr ⟨_, hhour, ?_⟩
    refine Except.bind_eq_ok_iff.mpr ⟨_, hcolon, ?_⟩
    refine Except.bind_eq_ok_iff.mpr ⟨_, hminute, ?_⟩
    refine Except.bind_eq_ok_iff.mpr ⟨_, hcolon', ?_⟩
    exact Except.bind_eq_ok_iff.mpr ⟨_, hsecond, rfl⟩
  have hend : (-86340 ≤ k ∧ k ≤ 86340) ∧ rest = [] ∧
      WrittenTime.instant ⟨year, month, day, hour, minute, second, nanos⟩ k = .ok t := by
    dsimp only at h
    split at h
    · cases h
    · next hrange =>
      simp only [Bool.or_eq_true, decide_eq_true_eq, not_or, Int.not_lt] at hrange
      exact ⟨hrange, eq_nil_of_isEmpty h⟩
  obtain ⟨hrange, rfl, hinstant⟩ := hend
  obtain ⟨rfl, hlast, rfl⟩ := year_mark_inv (by decide) rfl hyear hmark
  obtain ⟨rfl, -, rfl⟩ := bounded_mark_inv readsTwo_number rfl hmonth hmark'
  obtain ⟨rfl, hvalue⟩ := bounded_inv readsTwo_number hday
  obtain ⟨hfits, mark, rfl⟩ := separator_surplus_inv hseparator
  obtain ⟨rfl, -⟩ := hvalue hfits
  exact ⟨hlast, mark, more, rfl, hour, minute, second, left, nanos, zone, k, hclock, hfraction,
    hoffset, hrange, hinstant⟩

private theorem ofRfc3339_moment_inv {m : TimeMark}
    (h : ofRfc3339 (WrittenInstant.moment d m c z).text.toList = .ok t) :
    d.year ≤ 9999 ∧ c.IsValid ∧ z.IsValid ∧ z ≠ .unmarked ∧ WrittenTime.instant
      ⟨d.year, d.month, d.day, c.hour, c.minute, c.second, c.fractionNanos⟩ z.offset = .ok t := by
  rw [WrittenInstant.toList_moment] at h
  obtain ⟨hlast, mark, more, hmore, hour, minute, second, left, nanos, zone, k, hclock, hfraction,
    hoffset, hrange, hinstant⟩ := ofRfc3339_inv h
  obtain rfl := (List.cons.inj hmore).2
  obtain ⟨⟨rfl, hhour⟩, ⟨rfl, hminute⟩, rfl, hsecond⟩ := clockParts_inv readsTwo_number hclock
  have hfits : surplus 2 c.second = [] := by
    by_contra hlong
    rw [fraction_surplus hlong] at hfraction
    obtain rfl := (Prod.mk.inj (Except.ok.inj hfraction)).2
    exact offset_surplus hlong hoffset
  obtain ⟨rfl, hmost⟩ := hsecond hfits
  rw [hfits, List.nil_append, fraction_pointText c (Zone.head_text z)] at hfraction
  obtain ⟨rfl, rfl⟩ := Prod.mk.inj (Except.ok.inj hfraction)
  obtain ⟨hmarked, hzone, rfl⟩ :=
    offset_inv hoffset (Int.not_lt.mpr hrange.1) (Int.not_lt.mpr hrange.2)
  exact ⟨hlast, ⟨hhour, hminute, hmost⟩, hzone, hmarked, hinstant⟩

private theorem ofRfc3339_day : ofRfc3339 d.text.toList ≠ .ok t := by
  intro h
  rw [← List.append_nil d.text.toList] at h
  obtain ⟨-, mark, more, hmore, -⟩ := ofRfc3339_inv h
  cases hmore

/-! ### All readings -/

/-- What a reading of dates and times accepts is all in its range, and it is the instant that is
meant. -/
theorem reading_inv {w : WrittenInstant} {read : List Char → Except DateError Instant}
    (hread : read ∈ readings) (h : read w.text.toList = .ok t) : w.IsValid ∧ t = w.instant := by
  have hread : read = ofRfc3339 ∨ read = ofDateText ∨ ∃ mark decimals,
      (mark = char 'T' ∨ mark = blanks) ∧ read = ofCivilText mark decimals := by
    simp only [readings, List.mem_cons, List.not_mem_nil, or_false] at hread
    rcases hread with rfl | rfl | rfl | rfl | rfl | rfl
    · exact .inl rfl
    · exact .inr (.inr ⟨_, _, .inl rfl, rfl⟩)
    · exact .inr (.inr ⟨_, _, .inl rfl, rfl⟩)
    · exact .inr (.inr ⟨_, _, .inr rfl, rfl⟩)
    · exact .inr (.inr ⟨_, _, .inr rfl, rfl⟩)
    · exact .inr (.inl rfl)
  cases w with
  | day d =>
    rcases hread with rfl | rfl | ⟨mark, decimals, hmark, rfl⟩
    · exact absurd h ofRfc3339_day
    · change ofDateText d.text.toList = _ at h
      rw [← List.append_nil d.text.toList] at h
      obtain ⟨-, hyear, hinstant⟩ := ofDateText_inv h
      obtain ⟨hd, rfl⟩ := WrittenInstant.instant_inv (c := ClockTime.midnight) hyear
        ClockTime.isValid_midnight (by decide) hinstant
      exact ⟨hd, WrittenInstant.instantAt_midnight d⟩
    · exact absurd h (ofCivilText_day hmark)
  | moment d m c z =>
    rcases hread with rfl | rfl | ⟨mark, decimals, hmark, rfl⟩
    · obtain ⟨hyear, hc, hz, -, hinstant⟩ := ofRfc3339_moment_inv h
      obtain ⟨hd, rfl⟩ := WrittenInstant.instant_inv hyear hc hz.offset_lt hinstant
      exact ⟨⟨hd, hc, hz⟩, rfl⟩
    · rw [WrittenInstant.toList_moment] at h
      cases (ofDateText_inv h).1
    · obtain ⟨hyear, hc, rfl, hinstant⟩ := ofCivilText_moment_inv hmark h
      obtain ⟨hd, rfl⟩ := WrittenInstant.instant_inv hyear hc (by decide) hinstant
      exact ⟨⟨hd, hc, trivial⟩, rfl⟩

end Instant

end TabularReport

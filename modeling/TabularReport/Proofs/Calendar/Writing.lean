import Mathlib.Data.List.TakeWhile
import TabularReport.Calendar.Reading
import TabularReport.Proofs.Calendar.Day
import TabularReport.Proofs.Statement.Resolution
import TabularReport.Proofs.Text.Numeral

/-!
# Instants survive being written

A text that is read as an instant gives one on a representable day whose nanoseconds reach past a
second at most in the last second of a minute. The text of such an instant is read as the instant.
-/

namespace TabularReport

open Text

namespace DateScan

variable {ds rest : List Char} {n : Nat} {c : Char}

private theorem number_append {least most : Nat} (h : IsNumeral ds n) (hleast : least ≤ ds.length)
    (hmost : ds.length ≤ most) (hc : isDigit c = false) :
    number least most (ds ++ c :: rest) = .ok (n, c :: rest) := by
  have htaken : ((ds ++ c :: rest).take most).takeWhile isDigit = ds := by
    obtain ⟨k, rfl⟩ := Nat.exists_eq_add_of_le hmost
    rw [List.take_length_add_append, List.takeWhile_append_of_pos h.digits]
    cases k with
    | zero => simp
    | succ k => rw [List.take_succ_cons, List.takeWhile_cons_of_neg (by simp [hc]), List.append_nil]
  have hbytes : ¬ byteLength (ds ++ c :: rest) < least := by
    have := length_le_byteLength (ds ++ c :: rest)
    rw [List.length_append] at this
    omega
  simp only [number, htaken, if_neg hbytes, if_neg (Nat.not_lt.mpr hleast), h.value,
    List.drop_left]

/-- The digits of a number beyond a width. -/
def surplus (width n : Nat) : List Char := (padZeros width n).toList.drop width

/-- What is beyond a width are digits. -/
theorem isDigit_of_mem_surplus {width : Nat} (h : c ∈ surplus width n) : isDigit c = true :=
  (isNumeral_padZeros width n).digits c (List.mem_of_mem_drop h)

/-- A number has no digits beyond a width exactly when it has room there. -/
theorem surplus_eq_nil_iff {width : Nat} (hwidth : 0 < width) :
    surplus width n = [] ↔ n < 10 ^ width := by
  refine ⟨fun h ↦ ?_, fun h ↦ ?_⟩
  · have hnumeral := isNumeral_padZeros width n
    have hlength : (padZeros width n).toList.length ≤ width := List.drop_eq_nil_iff.mp h
    have hlt := digitsValue_lt hnumeral.digits
    rw [hnumeral.value] at hlt
    exact Nat.lt_of_lt_of_le hlt (Nat.pow_le_pow_right (by decide) hlength)
  · exact List.drop_of_length_le (Nat.le_of_eq (length_padZeros hwidth h))

/-- A number without surplus digits is read as itself. -/
theorem digitsValue_take_of_surplus {width : Nat} (h : surplus width n = []) :
    digitsValue ((padZeros width n).toList.take width) = n := by
  rw [List.take_of_length_le (List.drop_eq_nil_iff.mp h), (isNumeral_padZeros width n).value]

/-- Of a number that is padded to a width as many digits are read. -/
theorem number_padZeros {least width : Nat} (hleast : least ≤ width) (n : Nat)
    (rest : List Char) :
    number least width ((padZeros width n).toList ++ rest) =
      .ok (digitsValue ((padZeros width n).toList.take width), surplus width n ++ rest) := by
  have hnumeral := isNumeral_padZeros width n
  have hlength := le_length_padZeros width n
  have htaken : (((padZeros width n).toList ++ rest).take width).takeWhile isDigit =
      (padZeros width n).toList.take width := by
    rw [List.take_append_of_le_length hlength, List.takeWhile_eq_self_iff]
    exact fun c hc ↦ hnumeral.digits c (List.mem_of_mem_take hc)
  have hbytes : ¬ byteLength ((padZeros width n).toList ++ rest) < least := by
    have := length_le_byteLength ((padZeros width n).toList ++ rest)
    rw [List.length_append] at this
    omega
  have hcount : ((padZeros width n).toList.take width).length = width := by
    rw [List.length_take, Nat.min_eq_left hlength]
  simp only [number, htaken, if_neg hbytes, hcount, if_neg (Nat.not_lt.mpr hleast), surplus,
    List.drop_append_of_le_length hlength]

/-- A number that has room is read as itself. -/
theorem number_padZeros_of_lt {least width : Nat} (hleast : least ≤ width) (hwidth : 0 < width)
    (h : n < 10 ^ width) (rest : List Char) :
    number least width ((padZeros width n).toList ++ rest) = .ok (n, rest) := by
  have hfits := (surplus_eq_nil_iff hwidth).mpr h
  rw [number_padZeros hleast, hfits, digitsValue_take_of_surplus hfits]
  rfl

/-- Whether a scan reads two digits where they stand. -/
def ReadsTwo (scan : DateScan Nat) : Prop :=
  ∀ n rest, scan ((padZeros 2 n).toList ++ rest) =
    .ok (digitsValue ((padZeros 2 n).toList.take 2), surplus 2 n ++ rest)

/-- Two digits are read as two digits. -/
theorem readsTwo_number : ReadsTwo (number 2 2) := fun n rest ↦ number_padZeros (by decide) n rest

/-- One or two digits, which blanks may precede, are read as two where there are two. -/
theorem readsTwo_padded : ReadsTwo (padded (number 1 2)) := fun n rest ↦ by
  rw [padded, trimLeft_append_of_isDigit (isNumeral_padZeros 2 n).digits (padZeros_ne_nil 2 n),
    number_padZeros (by decide)]

/-- A number of two digits is read as itself. -/
theorem bounded_padZeros {scan : DateScan Nat} (hscan : ReadsTwo scan) {low high : Nat}
    (hhigh : high < 100) (h : low ≤ n ∧ n ≤ high) (rest : List Char) :
    bounded scan low high ((padZeros 2 n).toList ++ rest) = .ok (n, rest) := by
  have hfits : surplus 2 n = [] := (surplus_eq_nil_iff (by decide)).mpr (by omega)
  rw [bounded, hscan, hfits, digitsValue_take_of_surplus hfits]
  simp [h]

/-- A year without a sign is read as a number of up to four digits. -/
theorem signedYear_padZeros (width n : Nat) (rest : List Char) :
    signedYear ((padZeros width n).toList ++ rest) =
      (number 1 4 ((padZeros width n).toList ++ rest)).map fun (n, more) => ((n : Int), more) := by
  obtain ⟨d, more, hd⟩ := List.exists_cons_of_ne_nil (padZeros_ne_nil width n)
  have hdigit := (isNumeral_padZeros width n).digits d (hd ▸ List.mem_cons_self ..)
  rw [hd, List.cons_append, signedYear]
  · rintro _ ⟨rfl, -⟩
    cases hdigit
  · rintro _ ⟨rfl, -⟩
    cases hdigit

private theorem signedYear_yearText (year : Int) :
    signedYear ((Instant.yearText year).toList ++ '-' :: rest) = .ok (year, '-' :: rest) := by
  have hnumeral := isNumeral_padZeros 4 year.natAbs
  have hpos := List.length_pos_iff.mpr (padZeros_ne_nil 4 year.natAbs)
  rw [Instant.yearText]
  split
  · next hyear =>
    simp only [Bool.and_eq_true, decide_eq_true_eq] at hyear
    rw [signedYear_padZeros, number_padZeros_of_lt (by decide) (by decide) (by omega)]
    simp [Except.map, Int.natAbs_of_nonneg hyear.1]
  · next hyear =>
    have hread : number 1 ((padZeros 4 year.natAbs).toList ++ '-' :: rest).length
        ((padZeros 4 year.natAbs).toList ++ '-' :: rest) = .ok (year.natAbs, '-' :: rest) :=
      number_append hnumeral hpos (by simp) rfl
    rw [String.toList_append]
    split
    · next hneg =>
      have hback : -(year.natAbs : Int) = year := by omega
      change signedYear ('-' :: ((padZeros 4 year.natAbs).toList ++ '-' :: rest)) = _
      rw [signedYear, hread]
      simp only [Except.map, hback]
    · next hneg =>
      have hback : (year.natAbs : Int) = year := by omega
      change signedYear ('+' :: ((padZeros 4 year.natAbs).toList ++ '-' :: rest)) = _
      rw [signedYear, hread]
      simp only [Except.map, hback]

private theorem trimLeft_yearText (year : Int) :
    trimLeft ((Instant.yearText year).toList ++ rest) = (Instant.yearText year).toList ++ rest := by
  have hnumeral := isNumeral_padZeros 4 year.natAbs
  rw [Instant.yearText]
  split
  · exact trimLeft_append_of_isDigit hnumeral.digits (padZeros_ne_nil 4 _) rest
  · rw [String.toList_append]
    split <;> rfl

/-- What stands behind a point is read as nanoseconds, rounded down. -/
theorem decimals_append (hdigits : ∀ c ∈ ds, isDigit c = true) (hne : ds ≠ [])
    (h : Placeholder.startsWithDigit rest = false) :
    decimals (ds ++ rest) = .ok (digitsValue ds * 10 ^ 9 / 10 ^ ds.length, rest) := by
  have hrest : rest.takeWhile isDigit = [] ∧ rest.dropWhile isDigit = rest := by
    cases rest with
    | nil => exact ⟨rfl, rfl⟩
    | cons c more =>
      have hc : ¬ isDigit c = true := by simpa [Placeholder.startsWithDigit] using h
      exact ⟨List.takeWhile_cons_of_neg hc, List.dropWhile_cons_of_neg hc⟩
  have htaken : (ds ++ rest).takeWhile isDigit = ds := by
    rw [List.takeWhile_append_of_pos hdigits, hrest.1, List.append_nil]
  have hleft : (ds ++ rest).dropWhile isDigit = rest := by
    rw [List.dropWhile_append_of_pos hdigits, hrest.2]
  simp only [decimals, htaken, hleft, digitsValue_take_zeros hdigits, List.isEmpty_iff, hne,
    if_false]

private theorem fraction_fractionText (hn : n < 1000000000) :
    fraction ((Instant.fractionText n).toList ++ ['Z']) = .ok (n, ['Z']) := by
  have hdecimals {width k : Nat} (hwidth : 0 < width) (hk : k < 10 ^ width) :
      fraction (("." ++ padZeros width k).toList ++ ['Z']) =
        .ok (k * 10 ^ 9 / 10 ^ width, ['Z']) := by
    rw [String.toList_append]
    change decimals ((padZeros width k).toList ++ ['Z']) = _
    rw [decimals_append (isNumeral_padZeros width k).digits (padZeros_ne_nil width k) rfl,
      (isNumeral_padZeros width k).value, length_padZeros hwidth hk]
  rw [Instant.fractionText]
  split
  · next h => rw [h]; rfl
  · split
    · rw [hdecimals (by decide) (by omega)]
      congr 2
      omega
    · split
      · rw [hdecimals (by decide) (by omega)]
        congr 2
        omega
      · rw [hdecimals (by decide) hn]
        congr 2
        omega

private theorem fraction_lt {cs more : List Char} (h : fraction cs = .ok (n, more)) :
    n < 1000000000 := by
  unfold fraction at h
  split at h
  · next tail =>
    change decimals tail = _ at h
    by_cases hnone : (tail.takeWhile isDigit).isEmpty
    · rw [decimals, if_pos hnone] at h
      cases h
    · rw [decimals, if_neg hnone] at h
      cases h
      have hdigits : ∀ c ∈ (tail.takeWhile isDigit ++ List.replicate 9 '0').take 9,
          isDigit c = true := by
        intro c hc
        rcases List.mem_append.mp (List.mem_of_mem_take hc) with hc | hc
        · exact List.all_eq_true.mp List.all_takeWhile c hc
        · rw [List.eq_of_mem_replicate hc]
          rfl
      have hlength : ((tail.takeWhile isDigit ++ List.replicate 9 '0').take 9).length = 9 := by
        rw [List.length_take, List.length_append, List.length_replicate]
        omega
      have hlt := digitsValue_lt hdigits
      rwa [hlength] at hlt
  · cases h
    decide

private theorem offset_mod {between : DateScan Unit} {cs more : List Char} {k : Int}
    (h : offset between cs = .ok (k, more)) : k % 60 = 0 := by
  unfold offset at h
  split at h
  · cases h
  · split at h
    · cases h
      rfl
    · split at h
      · split at h
        · cases h
        · split at h
          · cases h
          · split at h
            · cases h
            · split at h
              · cases h
              · cases h
                split <;> omega
      · cases h

end DateScan

namespace Instant

open DateScan Calendar

variable {rest : List Char}

private theorem char_gap (loose : Bool) {c : Char} (hc : isBlank c = false) (rest : List Char) :
    char c (if loose then trimLeft (c :: rest) else c :: rest) = .ok ((), rest) := by
  have htrim : trimLeft (c :: rest) = c :: rest := List.dropWhile_cons_of_neg (by simp [hc])
  rw [htrim, ite_self, char, if_pos rfl]

/-- The parts of a date are read as they are written. -/
theorem dateParts_text (loose : Bool) {year : Int} {month day : Nat} (hmin : minYear ≤ year)
    (hmax : year ≤ maxYear) (hmonth : 1 ≤ month ∧ month ≤ 12) (hday : 1 ≤ day ∧ day ≤ 31) :
    dateParts loose ((yearText year).toList ++ '-' :: ((padZeros 2 month).toList ++
      '-' :: ((padZeros 2 day).toList ++ rest))) = .ok (year, month, day, rest) := by
  have hrange : (decide (year < -(Nat.pow 2 31 : Nat)) || decide ((Nat.pow 2 31 : Nat) ≤ year)) =
      false := by
    have hpow : Nat.pow 2 31 = 2147483648 := rfl
    rw [hpow, Bool.or_eq_false_iff, decide_eq_false_iff_not, decide_eq_false_iff_not]
    unfold minYear at hmin
    unfold maxYear at hmax
    omega
  rw [dateParts, trimLeft_yearText]
  refine Except.bind_eq_ok_iff.mpr ⟨_, signedYear_yearText year, ?_⟩
  dsimp only
  rw [hrange]
  refine Except.bind_eq_ok_iff.mpr ⟨_, char_gap loose (by decide) _, ?_⟩
  refine Except.bind_eq_ok_iff.mpr ⟨_, bounded_padZeros readsTwo_padded (by decide) hmonth _, ?_⟩
  refine Except.bind_eq_ok_iff.mpr ⟨_, char_gap loose (by decide) _, ?_⟩
  exact Except.bind_eq_ok_iff.mpr ⟨_, bounded_padZeros readsTwo_padded (by decide) hday _, rfl⟩

/-- The reading of a time of day whose numbers `scan` reads; `loose` allows blanks before the marks.
With numbers that may be unpadded it is `timeParts`, with two digits that of the strict form. -/
def clockParts (scan : DateScan Nat) (loose : Bool) (cs : List Char) :
    Except DateError (Nat × Nat × Nat × List Char) := do
  let gap (cs : List Char) := if loose then trimLeft cs else cs
  let (hour, cs) ← bounded scan 0 23 cs
  let (_, cs) ← char ':' (gap cs)
  let (minute, cs) ← bounded scan 0 59 cs
  let (_, cs) ← char ':' (gap cs)
  let (second, cs) ← bounded scan 0 60 cs
  .ok (hour, minute, second, cs)

/-- The parts of a time of day are read as they are written. -/
theorem clockParts_text {scan : DateScan Nat} (hscan : ReadsTwo scan) (loose : Bool)
    {hour minute second : Nat} (hhour : hour ≤ 23) (hminute : minute ≤ 59) (hsecond : second ≤ 60) :
    clockParts scan loose ((padZeros 2 hour).toList ++ ':' :: ((padZeros 2 minute).toList ++
        ':' :: ((padZeros 2 second).toList ++ rest))) = .ok (hour, minute, second, rest) := by
  rw [clockParts]
  refine Except.bind_eq_ok_iff.mpr
    ⟨_, bounded_padZeros hscan (by decide) ⟨Nat.zero_le _, hhour⟩ _, ?_⟩
  refine Except.bind_eq_ok_iff.mpr ⟨_, char_gap loose (by decide) _, ?_⟩
  refine Except.bind_eq_ok_iff.mpr
    ⟨_, bounded_padZeros hscan (by decide) ⟨Nat.zero_le _, hminute⟩ _, ?_⟩
  refine Except.bind_eq_ok_iff.mpr ⟨_, char_gap loose (by decide) _, ?_⟩
  exact Except.bind_eq_ok_iff.mpr
    ⟨_, bounded_padZeros hscan (by decide) ⟨Nat.zero_le _, hsecond⟩ _, rfl⟩

/-- Whether an instant can stand in a document: it lies on a representable day, and its nanoseconds
reach past a second only in the last second of a minute. -/
structure IsDated (t : Instant) : Prop where
  representable : t.isRepresentable = true
  nanos : t.nanos < 1000000000 ∨ t.nanos < 2000000000 ∧ t.seconds % 60 = 59

/-- The second of its day that an instant belongs to. -/
def secondOfDay (t : Instant) : Nat := (t.seconds - t.seconds.fdiv 86400 * 86400).toNat

/-- The date and the time of day that are written for an instant. -/
def written (t : Instant) : WrittenTime where
  year := (dateOf (t.seconds.fdiv 86400)).1
  month := (dateOf (t.seconds.fdiv 86400)).2.1
  day := (dateOf (t.seconds.fdiv 86400)).2.2
  hour := t.secondOfDay / 3600
  minute := t.secondOfDay / 60 % 60
  second := t.secondOfDay % 60 + (if 1000000000 ≤ t.nanos then 1 else 0)
  nanos := if 1000000000 ≤ t.nanos then t.nanos - 1000000000 else t.nanos

private theorem secondOfDay_lt (t : Instant) : t.secondOfDay < 86400 := by
  rw [secondOfDay, Int.fdiv_eq_ediv_of_nonneg _ (by decide)]
  omega

private theorem seconds_eq (t : Instant) :
    t.seconds = t.seconds.fdiv 86400 * 86400 + t.secondOfDay := by
  rw [secondOfDay, Int.fdiv_eq_ediv_of_nonneg _ (by decide)]
  omega

private theorem toList_text (t : Instant) :
    t.text.toList =
      (yearText t.written.year).toList ++ '-' :: ((padZeros 2 t.written.month).toList ++
        '-' :: ((padZeros 2 t.written.day).toList ++ 'T' :: ((padZeros 2 t.written.hour).toList ++
        ':' :: ((padZeros 2 t.written.minute).toList ++
        ':' :: ((padZeros 2 t.written.second).toList ++
        ((fractionText t.written.nanos).toList ++ ['Z'])))))) := by
  have hmarks : "-".toList = ['-'] ∧ "T".toList = ['T'] ∧ ":".toList = [':'] ∧
      "Z".toList = ['Z'] := ⟨rfl, rfl, rfl, rfl⟩
  simp only [text, civilText, written, secondOfDay, String.toList_append, hmarks,
    List.append_assoc, List.cons_append, List.nil_append]

namespace IsDated

variable {t : Instant} (h : t.IsDated)
include h

private theorem isDate_written : isDate t.written.year t.written.month t.written.day = true := by
  have hyear := h.representable
  simp only [isRepresentable, Bool.and_eq_true, decide_eq_true_eq] at hyear
  exact isDate_dateOf hyear.1 hyear.2

private theorem second_written :
    (t.secondOfDay % 60 = 59 ∧ t.written.second = 60 ∧ t.written.nanos + 1000000000 = t.nanos ∨
      t.secondOfDay % 60 < 60 ∧ t.written.second = t.secondOfDay % 60 ∧
        t.written.nanos = t.nanos) ∧
      t.written.nanos < 1000000000 := by
  have hseconds := t.seconds_eq
  have hnanos := h.nanos
  simp only [written]
  by_cases hleap : 1000000000 ≤ t.nanos
  · rw [if_pos hleap, if_pos hleap]
    omega
  · rw [if_neg hleap, if_neg hleap]
    omega

private theorem bounds_written :
    t.written.hour ≤ 23 ∧ t.written.minute ≤ 59 ∧ t.written.second ≤ 60 := by
  have hday := t.secondOfDay_lt
  have hsecond := h.second_written
  refine ⟨?_, ?_, by omega⟩ <;>
  · simp only [written]
    omega

private theorem meant_written :
    (if t.written.second = 60 then 59 else t.written.second) = t.secondOfDay % 60 ∧
      (if t.written.second = 60 then t.written.nanos + 1000000000 else t.written.nanos) =
        t.nanos := by
  rcases h.second_written.1 with ⟨hlast, hsecond, hnanos⟩ | ⟨hlt, hsecond, hnanos⟩
  · rw [if_pos hsecond, if_pos hsecond]
    exact ⟨hlast.symm, hnanos⟩
  · have hne : t.written.second ≠ 60 := by omega
    rw [if_neg hne, if_neg hne]
    exact ⟨hsecond, hnanos⟩

private theorem instant_written : t.written.instant 0 = .ok t := by
  have hday := t.seconds_eq
  have hnumber : dayNumber t.written.year t.written.month t.written.day = t.seconds.fdiv 86400 :=
    dayNumber_dateOf _
  have hclock : t.written.hour * 3600 + t.written.minute * 60 + t.secondOfDay % 60 =
      t.secondOfDay := by
    simp only [written]
    omega
  have hseconds : t.seconds.fdiv 86400 * 86400 + (t.secondOfDay : Int) - 0 = t.seconds := by omega
  simp only [WrittenTime.instant, h.isDate_written, h.meant_written, ofCivil, hnumber, hclock,
    hseconds, h.representable]
  rfl

/-- An instant is read from its text. -/
theorem ofRelaxed_text : ofRelaxed t.text.toList = .ok t := by
  have hdate := h.isDate_written
  simp only [isDate, Bool.and_eq_true, decide_eq_true_eq] at hdate
  obtain ⟨⟨⟨⟨⟨hmin, hmax⟩, hmonth⟩, hmonth'⟩, hday⟩, hday'⟩ := hdate
  obtain ⟨hhour, hminute, hsecond⟩ := h.bounds_written
  rw [toList_text, ofRelaxed]
  refine Except.bind_eq_ok_iff.mpr
    ⟨_, dateParts_text true hmin hmax ⟨hmonth, hmonth'⟩
      ⟨hday, Nat.le_trans hday' (daysInMonth_le _ _)⟩, ?_⟩
  refine Except.bind_eq_ok_iff.mpr ⟨_, rfl, ?_⟩
  refine Except.bind_eq_ok_iff.mpr
    ⟨_, clockParts_text readsTwo_padded true hhour hminute hsecond, ?_⟩
  refine Except.bind_eq_ok_iff.mpr ⟨_, fraction_fractionText h.second_written.2, ?_⟩
  exact h.instant_written

end IsDated

private theorem isDated_of_instant {w : WrittenTime} {offset : Int} {t : Instant}
    (hnanos : w.nanos < 1000000000) (hoffset : offset % 60 = 0) (h : w.instant offset = .ok t) :
    t.IsDated := by
  unfold WrittenTime.instant at h
  split at h
  · cases h
  · split at h
    · cases h
    · dsimp only at h
      split at h
      · split at h
        · next hrep =>
          cases h
          refine ⟨hrep, .inr ⟨?_, ?_⟩⟩ <;>
          · simp only [ofCivil]
            omega
        · cases h
      · split at h
        · next hrep =>
          cases h
          exact ⟨hrep, .inl hnanos⟩
        · cases h

/-- What is read as an instant can stand in a document. -/
theorem isDated_of_ofRelaxed {cs : List Char} {t : Instant} (h : ofRelaxed cs = .ok t) :
    t.IsDated := by
  rw [ofRelaxed] at h
  obtain ⟨⟨year, month, day, afterDate⟩, -, h⟩ := Except.bind_eq_ok_iff.mp h
  dsimp only at h
  obtain ⟨⟨mark, afterMark⟩, -, h⟩ := Except.bind_eq_ok_iff.mp h
  dsimp only at h
  obtain ⟨⟨hour, minute, second, afterTime⟩, -, h⟩ := Except.bind_eq_ok_iff.mp h
  dsimp only at h
  obtain ⟨⟨nanos, afterFraction⟩, hnanos, h⟩ := Except.bind_eq_ok_iff.mp h
  dsimp only at h
  split at h
  · obtain ⟨⟨offset, afterOffset⟩, hoffset, h⟩ := Except.bind_eq_ok_iff.mp h
    cases hoffset
    dsimp only at h
    split at h
    · cases h
    · exact isDated_of_instant (fraction_lt hnanos) rfl h
  · obtain ⟨⟨offset, afterOffset⟩, hoffset, h⟩ := Except.bind_eq_ok_iff.mp h
    dsimp only at h
    split at h
    · cases h
    · exact isDated_of_instant (fraction_lt hnanos) (offset_mod hoffset) h

end Instant

end TabularReport

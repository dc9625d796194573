import Mathlib.Algebra.Group.Nat.Defs
import TabularReport.Proofs.Filter.Placeholder

/-!
# Numerals

A number is written as a run of digits that stands for it, padded with zeros to a width.
-/

namespace TabularReport.Text

/-- A run of digits and the number that it stands for. -/
structure IsNumeral (ds : List Char) (n : Nat) : Prop where
  digits : ∀ c ∈ ds, isDigit c = true
  value : digitsValue ds = n

private theorem digitsValue_eq (cs : List Char) : digitsValue cs = Nat.ofDigitChars 10 cs 0 := by
  rw [Nat.ofDigitChars_eq_foldl, digitsValue]
  congr 1
  funext n c
  rw [Nat.mul_comm]
  rfl

/-- The digits of a number stand for it. -/
theorem digitsValue_toDigits (n : Nat) : digitsValue (Nat.toDigits 10 n) = n := by
  rw [digitsValue_eq, Nat.ofDigitChars_ten_toDigits]

/-- Leading zeros do not change a number. -/
theorem isNumeral_padZeros (width n : Nat) : IsNumeral (padZeros width n).toList n where
  digits c hc := by
    rw [padZeros, String.toList_ofList] at hc
    rcases List.mem_append.mp hc with hc | hc
    · rw [List.eq_of_mem_replicate hc]
      rfl
    · exact Placeholder.isDigit_toDigits hc
  value := by
    rw [padZeros, String.toList_ofList, digitsValue_eq, Nat.ofDigitChars_append,
      Nat.ofDigitChars_replicate_zero, Nat.mul_zero, Nat.ofDigitChars_ten_toDigits]

/-- A number that fits is padded to the width. -/
theorem length_padZeros {width n : Nat} (hwidth : 0 < width) (h : n < 10 ^ width) :
    (padZeros width n).toList.length = width := by
  have hlength := (Nat.length_toDigits_le_iff (b := 10) (by decide) hwidth).mpr h
  rw [padZeros, String.toList_ofList, List.length_append, List.length_replicate]
  omega

/-- A number is padded to the width at least. -/
theorem le_length_padZeros (width n : Nat) : width ≤ (padZeros width n).toList.length := by
  rw [padZeros, String.toList_ofList, List.length_append, List.length_replicate]
  omega

/-- A number has digits. -/
theorem padZeros_ne_nil (width n : Nat) : (padZeros width n).toList ≠ [] := by
  have hpos := Nat.length_toDigits_pos (b := 10) (n := n)
  intro h
  have hlength := congrArg List.length h
  rw [padZeros, String.toList_ofList, List.length_append, List.length_nil] at hlength
  omega

/-- A digit counts as many times the power of ten as there are digits behind it. -/
theorem digitsValue_cons (c : Char) (rest : List Char) :
    digitsValue (c :: rest) = digitValue c * 10 ^ rest.length + digitsValue rest := by
  rw [digitsValue_eq, digitsValue_eq, Nat.ofDigitChars_cons,
    Nat.ofDigitChars_eq_ofDigitChars_zero]
  change 10 ^ rest.length * (10 * 0 + (c.toNat - 48)) + _ = (c.toNat - 48) * _ + _
  rw [Nat.mul_zero, Nat.zero_add, Nat.mul_comm]

private theorem digitsValue_append (a b : List Char) :
    digitsValue (a ++ b) = digitsValue a * 10 ^ b.length + digitsValue b := by
  induction a with
  | nil => simp [digitsValue]
  | cons c rest ih =>
    rw [List.cons_append, digitsValue_cons, digitsValue_cons, ih, List.length_append, Nat.pow_add,
      Nat.add_mul, Nat.mul_assoc, Nat.add_assoc]

/-- A digit stands for less than ten. -/
theorem digitValue_lt {c : Char} (h : isDigit c = true) : digitValue c < 10 := by
  simp only [isDigit, Bool.and_eq_true, decide_eq_true_eq] at h
  unfold digitValue
  omega

/-- A run of digits stands for less than the power of ten with as many zeros. -/
theorem digitsValue_lt {cs : List Char} (h : ∀ c ∈ cs, isDigit c = true) :
    digitsValue cs < 10 ^ cs.length := by
  induction cs with
  | nil => decide
  | cons c rest ih =>
    rw [List.forall_mem_cons] at h
    have hmore := ih h.2
    have hmul := Nat.mul_le_mul_right (10 ^ rest.length) (Nat.le_of_lt_succ (digitValue_lt h.1))
    rw [digitsValue_cons, List.length_cons, Nat.pow_succ]
    omega

/-- Digits behind a point, cut or filled up with zeros to a number of places, stand for the fraction
in units of the last place, rounded down. -/
theorem digitsValue_take_zeros {ds : List Char} (h : ∀ c ∈ ds, isDigit c = true) (places : Nat) :
    digitsValue ((ds ++ List.replicate places '0').take places) =
      digitsValue ds * 10 ^ places / 10 ^ ds.length := by
  rcases Nat.le_total ds.length places with hshort | hlong
  · obtain ⟨missing, rfl⟩ := Nat.exists_eq_add_of_le hshort
    have hzeros : digitsValue (List.replicate missing '0') = 0 := by
      rw [digitsValue_eq, Nat.ofDigitChars_replicate_zero, Nat.mul_zero]
    rw [List.take_length_add_append, List.take_replicate,
      Nat.min_eq_left (Nat.le_add_left missing ds.length), digitsValue_append, hzeros,
      List.length_replicate, Nat.add_zero, Nat.pow_add, Nat.mul_left_comm,
      Nat.mul_div_cancel_left _ (Nat.pow_pos (by decide))]
  · have hcut : ds.take places ++ ds.drop places = ds := List.take_append_drop places ds
    have hdropped := digitsValue_lt fun c hc ↦ h c (List.mem_of_mem_drop hc (i := places))
    have hvalue := digitsValue_append (ds.take places) (ds.drop places)
    obtain ⟨more, hmore⟩ := Nat.exists_eq_add_of_le hlong
    have hlength : (ds.drop places).length = more := by rw [List.length_drop, hmore]; omega
    rw [hcut, hlength] at hvalue
    rw [hlength] at hdropped
    rw [List.take_append_of_le_length hlong, hmore, Nat.pow_add, Nat.mul_comm (digitsValue ds),
      Nat.mul_div_mul_left _ _ (Nat.pow_pos (by decide)), hvalue, Nat.mul_comm,
      Nat.mul_add_div (Nat.pow_pos (by decide)), Nat.div_eq_of_lt hdropped, Nat.add_zero]

/-- A digit is no white space. -/
theorem isBlank_eq_false_of_isDigit {c : Char} (h : isDigit c = true) : isBlank c = false := by
  simp only [isDigit, Bool.and_eq_true, decide_eq_true_eq] at h
  simp only [isBlank, Bool.or_eq_false_iff, Bool.and_eq_false_iff, decide_eq_false_iff_not,
    beq_eq_false_iff_ne]
  omega

/-- There is no white space before a digit. -/
theorem trimLeft_append_of_isDigit {ds : List Char} (h : ∀ c ∈ ds, isDigit c = true) (hne : ds ≠ [])
    (rest : List Char) : trimLeft (ds ++ rest) = ds ++ rest := by
  cases ds with
  | nil => exact absurd rfl hne
  | cons c more =>
    have hc := isBlank_eq_false_of_isDigit (h c (List.mem_cons_self ..))
    exact List.dropWhile_cons_of_neg (by simp [hc])

/-- A text has no more characters than bytes. -/
theorem length_le_byteLength (cs : List Char) : cs.length ≤ byteLength cs := by
  suffices h : ∀ n, n + cs.length ≤ cs.foldl (fun n c => n + c.utf8Size) n by
    simpa only [byteLength, Nat.zero_add] using h 0
  induction cs with
  | nil => exact fun n ↦ Nat.le_refl n
  | cons c rest ih =>
    intro n
    have hc := c.utf8Size_pos
    have := ih (n + c.utf8Size)
    rw [List.length_cons, List.foldl_cons]
    omega

end TabularReport.Text

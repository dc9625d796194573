import TabularReport.Proofs.RawQuery.Pieces
import TabularReport.Proofs.Text.Numeral
import TabularReport.Store.Query

/-!
# Placeholders for the names of a raw query

In a query text without placeholders of its own, every placeholder stands for the occurrence of a
name. Its number is the place of the name among all names, so that the text can be had back from the
placeholders and the names, and each occurrence is bound to the value of its own name.
-/

namespace TabularReport.RawQuery

open Placeholder Text

/-- The numbers after the dollar signs of a text: for each dollar sign before a digit all digits
that follow it, in the order of the text. -/
def numerals (cs : List Char) : List (List Char) := (digitsIn cs).filter (! ·.isEmpty)

/-- A text with names in the place of its placeholders. -/
def withNames (names : List String) : List Char → List Char
  | [] => []
  | c :: rest =>
    if c = '$' && startsWithDigit rest then
      '$' :: (names.getD (digitsValue (rest.takeWhile isDigit) - 1) "").toList ++
        withNames names (rest.dropWhile isDigit)
    else c :: withNames names rest
termination_by cs => cs.length
decreasing_by
  · have := (List.dropWhile_sublist isDigit (l := rest)).length_le
    simp only [List.length_cons]
    omega
  · simp

private theorem numerals_cons (c : Char) (rest : List Char) :
    numerals (c :: rest) =
      if c = '$' && startsWithDigit rest then rest.takeWhile isDigit :: numerals rest
      else numerals rest := by
  unfold numerals
  by_cases hc : c = '$'
  · cases rest with
    | nil => simp [digitsIn, hc, startsWithDigit]
    | cons d more =>
      cases hd : isDigit d <;> simp [digitsIn, hc, startsWithDigit, hd]
  · simp [digitsIn, hc]

private theorem numerals_append {a : List Char} (b : List Char) (h : '$' ∉ a) :
    numerals (a ++ b) = numerals b := by
  rw [numerals, digitsIn_append b h, numerals]

private theorem numerals_placeholder (k : Nat) {rest : List Char}
    (h : startsWithDigit rest = false) :
    numerals ((placeholder k).toList ++ rest) = Nat.toDigits 10 k :: numerals rest := by
  have hne : Nat.toDigits 10 k ≠ [] := by
    rw [← List.length_pos_iff]
    exact Nat.length_toDigits_pos
  rw [numerals, digitsIn_placeholder k h, List.filter_cons_of_pos (by simp [hne]), numerals]

private theorem cut_toDigits (k : Nat) {rest : List Char} (h : startsWithDigit rest = false) :
    startsWithDigit (Nat.toDigits 10 k ++ rest) = true ∧
      (Nat.toDigits 10 k ++ rest).takeWhile isDigit = Nat.toDigits 10 k ∧
      (Nat.toDigits 10 k ++ rest).dropWhile isDigit = rest := by
  have hk : ∀ c ∈ Nat.toDigits 10 k, isDigit c = true := fun c hc ↦ isDigit_toDigits hc
  have hpos : 0 < (Nat.toDigits 10 k).length := Nat.length_toDigits_pos
  obtain ⟨d, more, hd⟩ := List.exists_cons_of_length_pos hpos
  have hrest : rest.takeWhile isDigit = [] ∧ rest.dropWhile isDigit = rest := by
    cases rest with
    | nil => exact ⟨rfl, rfl⟩
    | cons c rest =>
      have hc : ¬ isDigit c = true := by simpa [startsWithDigit] using h
      exact ⟨List.takeWhile_cons_of_neg hc, List.dropWhile_cons_of_neg hc⟩
  refine ⟨?_, ?_, ?_⟩
  · rw [hd] at hk ⊢
    simpa [startsWithDigit] using hk d List.mem_cons_self
  · rw [List.takeWhile_append_of_pos hk, hrest.1, List.append_nil]
  · rw [List.dropWhile_append_of_pos hk, hrest.2]

private theorem withNames_placeholder (names : List String) (k : Nat) {rest : List Char}
    (h : startsWithDigit rest = false) :
    withNames names ((placeholder k).toList ++ rest) =
      '$' :: (names.getD (k - 1) "").toList ++ withNames names rest := by
  obtain ⟨hstart, htake, hdrop⟩ := cut_toDigits k h
  rw [toList_placeholder, List.cons_append, withNames, hstart, if_pos (by decide), htake, hdrop,
    digitsValue_toDigits]

/-- A text has placeholders of its own exactly when a number follows one of its dollar signs. -/
theorem hasPositional_eq_false_iff {cs : List Char} :
    hasPositional cs = false ↔ numerals cs = [] := by
  induction cs with
  | nil => simp [hasPositional, numerals, digitsIn]
  | cons c rest ih =>
    rw [numerals_cons]
    cases rest with
    | nil => simp [hasPositional, numerals, digitsIn, startsWithDigit]
    | cons d more =>
      by_cases hc : c = '$'
      · subst hc
        cases hd : isDigit d <;> simp [hasPositional, startsWithDigit, hd, ih]
      · simp [hasPositional, hc, ih]

private theorem numerals_cons_eq_nil_iff {c : Char} {rest : List Char} :
    numerals (c :: rest) = [] ↔
      (c = '$' → startsWithDigit rest = false) ∧ numerals rest = [] := by
  rw [numerals_cons]
  by_cases hc : c = '$' <;> cases hd : startsWithDigit rest <;> simp [hc]

namespace FallsInto

variable {cs : List Char} {ps : List Piece}

private theorem startsWithDigit_of_continuesName (h : continuesName cs = false) :
    startsWithDigit cs = false := by
  cases cs with
  | nil => rfl
  | cons c rest =>
    have hc : ¬ isNamePart c = true := by simpa [continuesName] using h
    simpa [startsWithDigit] using mt isNamePart_of_isDigit hc

private theorem startsWithDigit_written (h : FallsInto cs ps) (names : List String) :
    startsWithDigit (ps.flatMap (·.written names)) = startsWithDigit cs := by
  cases h with
  | nil => rfl
  | char => rfl
  | name =>
    rw [List.flatMap_cons, Piece.written, toList_placeholder]
    rfl

private theorem numerals_of_name {c : Char} {more rest : List Char} (hc : isNameStart c = true)
    (hmore : ∀ d ∈ more, isNamePart d = true) (h : numerals ('$' :: c :: more ++ rest) = []) :
    numerals rest = [] := by
  have hall : ∀ d ∈ c :: more, isNamePart d = true :=
    List.forall_mem_cons.mpr ⟨isNamePart_of_isNameStart hc, hmore⟩
  rw [List.cons_append, numerals_cons_eq_nil_iff, numerals_append _ (dollar_not_mem_name hall)] at h
  exact h.2

/-- In a text without placeholders of its own, the placeholders that are written for names are those
of the names, in order. -/
theorem numerals_written (h : FallsInto cs ps) (hn : numerals cs = []) (names : List String) :
    numerals (ps.flatMap (·.written names)) =
      (namesOf ps).map fun n ↦ Nat.toDigits 10 (names.idxOf n + 1) := by
  induction h with
  | nil => rfl
  | @char c rest ps _ hrest ih =>
    obtain ⟨hdigit, hn⟩ := numerals_cons_eq_nil_iff.mp hn
    rw [List.flatMap_cons, Piece.written, List.singleton_append, numerals_cons,
      hrest.startsWithDigit_written, and_eq_false_of_dollar hdigit]
    exact ih hn
  | @name c more rest ps hc hmore hend hrest ih =>
    have hdigit : startsWithDigit (ps.flatMap (·.written names)) = false := by
      rw [hrest.startsWithDigit_written]
      exact startsWithDigit_of_continuesName hend
    rw [List.flatMap_cons, Piece.written, numerals_placeholder _ hdigit,
      ih (numerals_of_name hc hmore hn)]
    rfl

/-- Putting the names back for the placeholders that were written for them gives back a text without
placeholders of its own. -/
theorem withNames_written (h : FallsInto cs ps) (hn : numerals cs = []) {names : List String}
    (hnames : ∀ n ∈ namesOf ps, n ∈ names) :
    withNames names (ps.flatMap (·.written names)) = cs := by
  induction h with
  | nil => rw [List.flatMap_nil, withNames]
  | @char c rest ps _ hrest ih =>
    obtain ⟨hdigit, hn⟩ := numerals_cons_eq_nil_iff.mp hn
    rw [List.flatMap_cons, Piece.written, List.singleton_append, withNames,
      hrest.startsWithDigit_written, and_eq_false_of_dollar hdigit, if_neg (by decide),
      ih hn hnames]
  | @name c more rest ps hc hmore hend hrest ih =>
    have hdigit : startsWithDigit (ps.flatMap (·.written names)) = false := by
      rw [hrest.startsWithDigit_written]
      exact startsWithDigit_of_continuesName hend
    obtain ⟨hname, hothers⟩ := List.forall_mem_cons.mp hnames
    have hplace : names.getD (names.idxOf (String.ofList (c :: more)) + 1 - 1) "" =
        String.ofList (c :: more) := by
      rw [Nat.add_sub_cancel, List.getD_eq_getElem?_getD, List.getElem?_idxOf hname,
        Option.getD_some]
    rw [List.flatMap_cons, Piece.written, withNames_placeholder _ _ hdigit, hplace,
      ih (numerals_of_name hc hmore hn) hothers, String.toList_ofList]

end FallsInto

end TabularReport.RawQuery

import Mathlib.Data.List.TakeWhile
import Mathlib.Tactic.IntervalCases
import TabularReport.Document.Text
import TabularReport.Json.Printer
import TabularReport.Proofs.Json.Number
import TabularReport.Proofs.Text.Numeral

/-!
# Literals of texts

A string is read back as it was quoted. A number literal is read the same whatever follows it, as
long as that does not go on with the literal, and an integer of 64 bits is read back as itself.
-/

namespace TabularReport

namespace Source

open Text

private theorem hexEscape_of_lt {n : Nat} (h : n < 32) (rest : List Char) :
    hexEscape ('0' :: '0' :: hexDigit (n / 16) :: hexDigit (n % 16) :: rest) = .ok (n, rest) := by
  interval_cases n <;> rfl

private theorem stringBody_escapeChar (c : Char) (fuel : Nat) (rest acc : List Char) :
    stringBody (fuel + 1) (Json.escapeChar c ++ rest) acc none =
      stringBody fuel rest (c :: acc) none := by
  have hof {n : Nat} (h : c.toNat = n) : c = Char.ofNat n := by rw [← h, Char.ofNat_toNat]
  unfold Json.escapeChar
  dsimp only
  split_ifs with hquote hbackslash hb ht hn hf hr hcontrol
  · cases hof hquote
    rfl
  · cases hof hbackslash
    rfl
  · cases hof hb
    rfl
  · cases hof ht
    rfl
  · cases hof hn
    rfl
  · cases hof hf
    rfl
  · cases hof hr
    rfl
  · -- A control character that has no letter is written as its code.
    have hescape : escape ('u' :: '0' :: '0' :: hexDigit (c.toNat / 16) ::
        hexDigit (c.toNat % 16) :: rest) = .ok ⟨.ok c, rest⟩ := by
      change unicodeEscape _ = _
      rw [unicodeEscape, hexEscape_of_lt hcontrol]
      have hlow : ¬ (0xDC00 ≤ c.toNat && c.toNat ≤ 0xDFFF) = true := by simp; omega
      have hplane : (c.toNat < 0xD800 || 0xDFFF < c.toNat) = true := by simp; omega
      simp only [if_neg hlow, if_pos hplane, Char.ofNat_toNat]
    change stringBody (fuel + 1) ('\\' :: 'u' :: '0' :: '0' :: hexDigit (c.toNat / 16) ::
      hexDigit (c.toNat % 16) :: rest) acc none = _
    rw [stringBody, hescape]
    rfl
  · rw [List.singleton_append, stringBody]
    rw [if_neg hquote, if_neg hbackslash, if_neg hcontrol]

private theorem stringBody_flatMap (cs : List Char) {fuel : Nat} (hfuel : cs.length < fuel)
    (rest acc : List Char) :
    stringBody fuel (cs.flatMap Json.escapeChar ++ '\x22' :: rest) acc none =
      .ok (.ok (String.ofList (acc.reverse ++ cs)), rest) := by
  induction cs generalizing fuel acc with
  | nil =>
    obtain ⟨fuel, rfl⟩ := Nat.exists_eq_add_of_lt hfuel
    rw [List.append_nil]
    rfl
  | cons c more ih =>
    rw [List.length_cons] at hfuel
    obtain ⟨fuel, rfl⟩ : ∃ n, fuel = n + 1 := ⟨fuel - 1, by omega⟩
    rw [List.flatMap_cons, List.append_assoc, stringBody_escapeChar, ih (by omega)]
    simp

private theorem length_le_flatMap_escapeChar (cs : List Char) :
    cs.length ≤ (cs.flatMap Json.escapeChar).length := by
  induction cs with
  | nil => exact Nat.le_refl _
  | cons c rest ih =>
    have hc : 0 < (Json.escapeChar c).length := by
      unfold Json.escapeChar
      dsimp only
      split_ifs <;> exact Nat.succ_pos _
    rw [List.flatMap_cons, List.length_append, List.length_cons]
    omega

/-- A string is read as it was quoted. -/
theorem stringLiteral_quoted (s : String) (rest : List Char) :
    stringLiteral (s.toList.flatMap Json.escapeChar ++ '\x22' :: rest) = .ok (.ok s, rest) := by
  have hlength := length_le_flatMap_escapeChar s.toList
  rw [stringLiteral, stringBody_flatMap s.toList (by rw [List.length_append]; omega),
    List.reverse_nil, List.nil_append, String.ofList_toList]

/-- Whether a text does not go on with a number that stands before it. -/
def EndsNumber (rest : List Char) : Prop :=
  ∀ c ∈ rest.head?, isDigit c = false ∧ c ≠ '.' ∧ c ≠ 'e' ∧ c ≠ 'E'

section number

variable {cs more rest : List Char}

private theorem takeWhile_isDigit_append (h : EndsNumber rest) :
    (cs ++ rest).takeWhile isDigit = cs.takeWhile isDigit := by
  have hnone : rest.takeWhile isDigit = [] := by
    cases rest with
    | nil => rfl
    | cons c rest => exact List.takeWhile_cons_of_neg (by simp [(h c rfl).1])
  rw [List.takeWhile_append, hnone]
  split
  · next hall =>
    rw [List.append_nil]
    exact ((List.takeWhile_prefix isDigit).eq_of_length hall).symm
  · rfl

private theorem dropWhile_isDigit_append (h : EndsNumber rest) :
    (cs ++ rest).dropWhile isDigit = cs.dropWhile isDigit ++ rest := by
  have hall : rest.dropWhile isDigit = rest := by
    cases rest with
    | nil => rfl
    | cons c rest => exact List.dropWhile_cons_of_neg (by simp [(h c rfl).1])
  rw [List.dropWhile_append, hall]
  split <;> simp_all

private theorem someDigits_append (h : EndsNumber rest) {ds : List Char}
    (hread : someDigits cs = .ok (ds, more)) :
    someDigits (cs ++ rest) = .ok (ds, more ++ rest) := by
  rw [someDigits] at hread ⊢
  rw [takeWhile_isDigit_append h, dropWhile_isDigit_append h]
  split_ifs at hread ⊢ with hempty
  cases hread
  rfl

private theorem wholeDigits_append (h : EndsNumber rest) {ds : List Char}
    (hread : wholeDigits cs = .ok (ds, more)) :
    wholeDigits (cs ++ rest) = .ok (ds, more ++ rest) := by
  cases cs with
  | nil => cases hread
  | cons c cs =>
    rw [List.cons_append]
    simp only [wholeDigits] at hread ⊢
    split_ifs at hread ⊢ with hzero hdigit
    · -- The whole part is the zero alone, and no digit may stand behind it.
      cases cs with
      | nil =>
        cases hread
        cases rest with
        | nil => rfl
        | cons d rest => simp [(h d rfl).1]
      | cons d cs =>
        dsimp only [List.cons_append] at hread ⊢
        split_ifs at hread ⊢
        cases hread
        rfl
    · cases hread
      rw [← List.cons_append, takeWhile_isDigit_append h, dropWhile_isDigit_append h]

private theorem exponentDigits_append (h : EndsNumber rest) {exponent : Int}
    (hread : exponentDigits cs = .ok (exponent, more)) :
    exponentDigits (cs ++ rest) = .ok (exponent, more ++ rest) := by
  have hsign : Decimal.sign (cs ++ rest) = ((Decimal.sign cs).1, (Decimal.sign cs).2 ++ rest) := by
    cases cs with
    | nil => cases hread
    | cons c cs =>
      by_cases hminus : c = '-'
      · cases hminus
        rfl
      · by_cases hplus : c = '+'
        · cases hplus
          rfl
        · simp [Decimal.sign, hminus, hplus]
  rw [exponentDigits] at hread ⊢
  rw [hsign]
  dsimp only at hread ⊢
  split at hread
  · cases hread
  · next ds after hds =>
    cases hread
    rw [someDigits_append h hds]

/-- The sign of a number, and what follows it. -/
def signPart (cs : List Char) : Bool × List Char :=
  match cs with
  | '-' :: rest => (true, rest)
  | _ => (false, cs)

/-- The fraction of a number, if there is one, and what follows it. -/
def fractionPart (cs : List Char) : Except Malformed (Option (List Char) × List Char) :=
  match cs with
  | '.' :: more => (someDigits more).map fun (ds, after) => (some ds, after)
  | _ => .ok (none, cs)

/-- The exponent of a number, if there is one, and what follows it. -/
def exponentPart : List Char → Except Malformed (Option Int × List Char)
  | [] => .ok (none, [])
  | c :: more =>
    if c = 'e' || c = 'E' then (exponentDigits more).map fun (n, after) => (some n, after)
    else .ok (none, c :: more)

private theorem numberLiteral_eq (cs : List Char) :
    numberLiteral cs =
      match signPart cs with
      | (negative, unsigned) =>
        match wholeDigits unsigned with
        | .error e => .error e
        | .ok (whole, rest) =>
          match fractionPart rest with
          | .error e => .error e
          | .ok (fraction?, rest) =>
            match rest with
            | c :: more =>
              if c = 'e' || c = 'E' then
                match exponentDigits more with
                | .error e => .error e
                | .ok (exponent, after) =>
                  .ok (numberOf negative whole (fraction?.getD []) exponent false, after)
              else .ok (numberOf negative whole (fraction?.getD []) 0 fraction?.isNone, rest)
            | [] => .ok (numberOf negative whole (fraction?.getD []) 0 fraction?.isNone, []) :=
  rfl

private theorem numberLiteral_eq_ok_iff {s : Source} :
    numberLiteral cs = .ok (s, more) ↔
      ∃ whole fraction? exponent? afterWhole afterFraction,
        wholeDigits (signPart cs).2 = .ok (whole, afterWhole) ∧
          fractionPart afterWhole = .ok (fraction?, afterFraction) ∧
          exponentPart afterFraction = .ok (exponent?, more) ∧
          s = numberOf (signPart cs).1 whole (fraction?.getD []) (exponent?.getD 0)
            (fraction?.isNone && exponent?.isNone) := by
  rw [numberLiteral_eq]
  generalize signPart cs = sign
  obtain ⟨negative, unsigned⟩ := sign
  dsimp only
  cases wholeDigits unsigned with
  | error e => simp
  | ok found =>
    obtain ⟨whole, afterWhole⟩ := found
    dsimp only
    cases hfraction : fractionPart afterWhole with
    | error e => simp [hfraction]
    | ok found =>
      obtain ⟨fraction?, afterFraction⟩ := found
      simp only [Except.ok.injEq, Prod.mk.injEq, ↓existsAndEq, and_true, true_and, hfraction]
      cases afterFraction with
      | nil => simp [exponentPart, eq_comm, and_comm]
      | cons c rest =>
        dsimp only
        rw [exponentPart]
        by_cases hc : (c = 'e' || c = 'E') = true
        · rw [if_pos hc, if_pos hc]
          cases exponentDigits rest with
          | error e => simp [Except.map]
          | ok found => simp [Except.map, eq_comm, and_comm]
        · rw [if_neg hc, if_neg hc]
          simp [eq_comm, and_comm]

private theorem signPart_of_ne (h : ∀ c ∈ cs.head?, c ≠ '-') : signPart cs = (false, cs) := by
  unfold signPart
  split
  · exact absurd rfl (h '-' rfl)
  · rfl

private theorem fractionPart_of_ne (h : ∀ c ∈ cs.head?, c ≠ '.') :
    fractionPart cs = .ok (none, cs) := by
  unfold fractionPart
  split
  · exact absurd rfl (h '.' rfl)
  · rfl

private theorem exponentPart_of_ne (h : ∀ c ∈ cs.head?, c ≠ 'e' ∧ c ≠ 'E') :
    exponentPart cs = .ok (none, cs) := by
  cases cs with
  | nil => rfl
  | cons c rest =>
    obtain ⟨he, hcapital⟩ := h c rfl
    simp [exponentPart, he, hcapital]

private theorem fractionPart_append (h : EndsNumber rest) {fraction? : Option (List Char)}
    (hread : fractionPart cs = .ok (fraction?, more)) :
    fractionPart (cs ++ rest) = .ok (fraction?, more ++ rest) := by
  cases cs with
  | nil =>
    cases hread
    exact fractionPart_of_ne fun c hc ↦ (h c hc).2.1
  | cons c cs =>
    by_cases hc : c = '.'
    · subst hc
      rw [fractionPart] at hread
      rw [List.cons_append, fractionPart]
      cases hds : someDigits cs with
      | error e =>
        rw [hds] at hread
        cases hread
      | ok found =>
        rw [hds] at hread
        cases hread
        rw [someDigits_append h hds]
        rfl
    · have hne : ∀ {tail : List Char}, ∀ d ∈ (c :: tail).head?, d ≠ '.' := by
        rintro tail d ⟨⟩
        exact hc
      rw [fractionPart_of_ne hne] at hread
      cases hread
      exact fractionPart_of_ne hne

private theorem exponentPart_append (h : EndsNumber rest) {exponent? : Option Int}
    (hread : exponentPart cs = .ok (exponent?, more)) :
    exponentPart (cs ++ rest) = .ok (exponent?, more ++ rest) := by
  cases cs with
  | nil =>
    cases hread
    exact exponentPart_of_ne fun c hc ↦ (h c hc).2.2
  | cons c cs =>
    rw [exponentPart] at hread
    rw [List.cons_append, exponentPart]
    split_ifs at hread ⊢
    · cases hds : exponentDigits cs with
      | error e =>
        rw [hds] at hread
        cases hread
      | ok found =>
        rw [hds] at hread
        cases hread
        rw [exponentDigits_append h hds]
        rfl
    · cases hread
      rfl

/-- A number is read the same whatever follows it. -/
theorem numberLiteral_append (h : EndsNumber rest) {s : Source}
    (hread : numberLiteral cs = .ok (s, more)) :
    numberLiteral (cs ++ rest) = .ok (s, more ++ rest) := by
  have hsign : signPart (cs ++ rest) = ((signPart cs).1, (signPart cs).2 ++ rest) := by
    cases cs with
    | nil => cases hread
    | cons c cs =>
      by_cases hc : c = '-'
      · subst hc
        rfl
      · have hne : ∀ {tail : List Char}, ∀ d ∈ (c :: tail).head?, d ≠ '-' := by
          rintro tail d ⟨⟩
          exact hc
        rw [List.cons_append, signPart_of_ne hne, signPart_of_ne hne]
        rfl
  rw [numberLiteral_eq_ok_iff] at hread ⊢
  obtain ⟨whole, fraction?, exponent?, afterWhole, afterFraction, hwhole, hfraction, hexponent,
    rfl⟩ := hread
  rw [hsign]
  exact ⟨whole, fraction?, exponent?, afterWhole ++ rest, afterFraction ++ rest,
    wholeDigits_append h hwhole, fractionPart_append h hfraction, exponentPart_append h hexponent,
    rfl⟩

/-- A number starts with a minus or a digit. -/
theorem exists_eq_cons_of_numberLiteral {s : Source} (hread : numberLiteral cs = .ok (s, more)) :
    ∃ c tail, cs = c :: tail ∧ (c = '-' ∨ isDigit c = true) := by
  cases cs with
  | nil => cases hread
  | cons c tail =>
    refine ⟨c, tail, rfl, or_iff_not_imp_left.mpr fun hc ↦ ?_⟩
    have hne : ∀ d ∈ (c :: tail).head?, d ≠ '-' := by
      rintro d ⟨⟩
      exact hc
    obtain ⟨whole, -, -, afterWhole, -, hwhole, -⟩ := numberLiteral_eq_ok_iff.mp hread
    rw [signPart_of_ne hne] at hwhole
    simp only [wholeDigits] at hwhole
    split_ifs at hwhole with hzero hdigit
    · rw [hzero]
      rfl
    · exact hdigit

end number

private theorem leadingDigits_eq (ds : List Char) (m : Nat)
    (h : ds.foldl (fun n c => n * 10 + digitValue c) m < 2 ^ 64) :
    Decimal.leadingDigits ds m = (ds.foldl (fun n c => n * 10 + digitValue c) m, 0) := by
  have hgrows (cs : List Char) (n : Nat) :
      n ≤ cs.foldl (fun n c => n * 10 + digitValue c) n := by
    induction cs generalizing n with
    | nil => exact Nat.le_refl n
    | cons c rest ih => exact Nat.le_trans (by omega) (ih (n * 10 + digitValue c))
  induction ds generalizing m with
  | nil => rfl
  | cons c rest ih =>
    have hnext : m * 10 + digitValue c < Nat.pow 2 64 := Nat.lt_of_le_of_lt (hgrows rest _) h
    rw [Decimal.leadingDigits, if_pos hnext]
    exact ih _ h

private theorem exists_toDigits_eq_cons (n : Nat) :
    ∃ c cs, Nat.toDigits 10 n = c :: cs ∧ isDigit c = true ∧ (c = '0' → n = 0) := by
  induction n using Nat.strongRecOn with
  | ind n ih =>
    rw [Nat.toDigits_eq_if (by decide)]
    split
    · next hlt =>
      refine ⟨_, [], rfl, ?_, ?_⟩ <;> interval_cases n <;> decide
    · next hle =>
      obtain ⟨c, cs, hds, hc, hzero⟩ := ih (n / 10) (by omega)
      rw [hds]
      exact ⟨c, _, rfl, hc, fun h ↦ by have := hzero h; omega⟩

private theorem wholeDigits_toDigits (n : Nat) :
    wholeDigits (Nat.toDigits 10 n) = .ok (Nat.toDigits 10 n, []) := by
  obtain ⟨c, cs, hds, hc, hzero⟩ := exists_toDigits_eq_cons n
  have hall : ∀ d ∈ c :: cs, isDigit d = true := fun d hd ↦
    Placeholder.isDigit_toDigits (hds ▸ hd)
  by_cases h : c = '0'
  · cases hzero h
    rfl
  · rw [hds]
    simp only [wholeDigits, if_neg h, if_pos hc, List.takeWhile_eq_self_iff.mpr hall,
      List.dropWhile_eq_nil_iff.mpr hall]

private theorem numberOf_of_lt {n : Nat} (h : n < 2 ^ 64) :
    numberOf false (Nat.toDigits 10 n) [] 0 true = .number (.int n) := by
  have hleading : Decimal.leadingDigits (Nat.toDigits 10 n) 0 = (n, 0) := by
    have hall := leadingDigits_eq (Nat.toDigits 10 n) 0
    rw [← digitsValue, digitsValue_toDigits] at hall
    exact hall h
  unfold numberOf
  simp only [hleading]
  rfl

private theorem numberOf_of_neg {n : Nat} (hpos : 0 < n) (h : n ≤ 2 ^ 63) :
    numberOf true (Nat.toDigits 10 n) [] 0 true = .number (.int (-n)) := by
  have hfits : (true && true && decide (0 < n) && decide (n ≤ Nat.pow 2 63)) = true := by
    simpa using ⟨hpos, h⟩
  unfold numberOf
  simp only [digitsValue_toDigits, hfits, Bool.not_true, Bool.and_false, Bool.false_eq_true,
    if_false, if_true]

end Source

namespace Number

/-- The number that the text of a number is read as. -/
def readAs? (n : Number) : Option Number :=
  match Source.numberLiteral n.text.toList with
  | .ok (.number m, []) => some m
  | _ => none

/-- What the text of a number is read as, when it can be read. -/
theorem readAs?_eq_some_iff {n m : Number} :
    n.readAs? = some m ↔ Source.numberLiteral n.text.toList = .ok (.number m, []) := by
  unfold readAs?
  split
  · next k h => simp [h]
  · next h => simpa using h m

/-- An integer of 64 bits is read back from its text. -/
theorem readAs?_int {i : Int} (h : (Number.int i).IsProper) :
    (Number.int i).readAs? = some (.int i) := by
  obtain ⟨hlow, hhigh⟩ := h
  rw [readAs?_eq_some_iff, Source.numberLiteral_eq_ok_iff]
  cases i with
  | ofNat n =>
    have htext : (Number.int (Int.ofNat n)).text.toList = Nat.toDigits 10 n :=
      (congrArg String.toList Nat.toString_eq_ofList_toDigits).trans String.toList_ofList
    obtain ⟨c, cs, hds, hc, -⟩ := Source.exists_toDigits_eq_cons n
    have hsign : Source.signPart (Nat.toDigits 10 n) = (false, Nat.toDigits 10 n) := by
      refine Source.signPart_of_ne fun d hd ↦ ?_
      rw [hds] at hd
      cases hd
      rintro rfl
      cases hc
    rw [htext, hsign]
    refine ⟨_, none, none, [], [], Source.wholeDigits_toDigits n, rfl, rfl, ?_⟩
    exact (Source.numberOf_of_lt (Int.ofNat_lt.mp hhigh)).symm
  | negSucc n =>
    have htext : (Number.int (Int.negSucc n)).text.toList = '-' :: Nat.toDigits 10 (n + 1) := by
      have hdigits : (toString (n + 1)).toList = Nat.toDigits 10 (n + 1) :=
        (congrArg String.toList Nat.toString_eq_ofList_toDigits).trans String.toList_ofList
      change ("-" ++ toString (n + 1)).toList = _
      rw [String.toList_append, hdigits]
      rfl
    rw [htext]
    refine ⟨_, none, none, [], [], Source.wholeDigits_toDigits (n + 1), rfl, rfl, ?_⟩
    exact (Source.numberOf_of_neg (Nat.succ_pos n) (by omega)).symm

end Number

end TabularReport

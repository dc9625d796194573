import TabularReport.Proofs.Filter.Remainder

/-!
# Placeholders in texts

A text is read from left to right; every dollar sign counts, with all digits that follow it. The
placeholders of a clause are then those of its values, one for each, in order.
-/

namespace TabularReport

namespace Placeholder

open Text

/-- The digits after each dollar sign of a text, in the order of the text. -/
def digitsIn : List Char → List (List Char)
  | [] => []
  | c :: rest => if c = '$' then rest.takeWhile isDigit :: digitsIn rest else digitsIn rest

/-- Whether a text begins with a digit. -/
def startsWithDigit (cs : List Char) : Bool := cs.head?.any isDigit

/-- The digits of `n` placeholders from an index on. -/
def digitsFrom (first n : Nat) : List (List Char) := (List.range' first n).map (Nat.toDigits 10)

/-- A text without dollar signs has no placeholders. -/
theorem digitsIn_append {a : List Char} (b : List Char) (h : '$' ∉ a) :
    digitsIn (a ++ b) = digitsIn b := by
  induction a with
  | nil => rfl
  | cons c rest ih =>
    rw [List.mem_cons, not_or] at h
    rw [List.cons_append, digitsIn, if_neg (Ne.symm h.1), ih h.2]

/-- The digits are those of the library. -/
theorem isDigit_iff {c : Char} : isDigit c = true ↔ c.isDigit = true := by
  rw [Char.isDigit_iff_toNat]
  simp [isDigit]

/-- The digits of a number are digits. -/
theorem isDigit_toDigits {k : Nat} {c : Char} (h : c ∈ Nat.toDigits 10 k) : isDigit c = true :=
  isDigit_iff.mpr (Nat.isDigit_of_mem_toDigits (by decide) (by decide) h)

private theorem dollar_not_mem_toDigits (k : Nat) : '$' ∉ Nat.toDigits 10 k :=
  fun h ↦ absurd (isDigit_toDigits h) (by decide)

/-- A placeholder is a dollar sign and the digits of its index. -/
theorem toList_placeholder (k : Nat) : (placeholder k).toList = '$' :: Nat.toDigits 10 k := by
  simp [placeholder, Nat.toList_repr]

/-- A placeholder that no digit follows is read as a whole. -/
theorem digitsIn_placeholder (k : Nat) {rest : List Char} (h : startsWithDigit rest = false) :
    digitsIn ((placeholder k).toList ++ rest) = Nat.toDigits 10 k :: digitsIn rest := by
  have hk : ∀ c ∈ Nat.toDigits 10 k, isDigit c = true := fun c hc ↦ isDigit_toDigits hc
  have hr : rest.takeWhile isDigit = [] := by
    cases rest with
    | nil => rfl
    | cons c more => exact List.takeWhile_cons_of_neg (by simpa [startsWithDigit] using h)
  rw [toList_placeholder, List.cons_append, digitsIn, if_pos rfl,
    digitsIn_append _ (dollar_not_mem_toDigits k), List.takeWhile_append_of_pos hk, hr,
    List.append_nil]

/-- The placeholders from an index on are those of the numbers from it on. -/
theorem placeholders_eq_map (first n : Nat) :
    placeholders first n = (List.range' first n).map placeholder := by
  induction n generalizing first with
  | zero => rfl
  | succ n ih => rw [placeholders, ih, List.range'_succ, List.map_cons]

/-- What holds of every placeholder holds of each of several ones. -/
theorem forall_mem_placeholders {P : String → Prop} (h : ∀ k, P (placeholder k)) (first n : Nat) :
    ∀ s ∈ placeholders first n, P s := by
  induction n generalizing first with
  | zero => exact fun s hs ↦ absurd hs List.not_mem_nil
  | succ n ih =>
    intro s hs
    rcases List.mem_cons.mp hs with rfl | hs
    · exact h first
    · exact ih (first + 1) s hs

private theorem digitsIn_placeholders (first n : Nat) {rest : List Char}
    (h : startsWithDigit rest = false) :
    digitsIn ((", ".intercalate (placeholders first n)).toList ++ rest) =
      digitsFrom first n ++ digitsIn rest := by
  induction n generalizing first with
  | zero => rfl
  | succ n ih =>
    cases n with
    | zero => simpa [placeholders, digitsFrom] using digitsIn_placeholder first h
    | succ n =>
      have hi := ih (first + 1)
      rw [placeholders, placeholders, String.intercalate_cons_cons, ← placeholders]
      simp only [String.toList_append, List.append_assoc]
      rw [digitsIn_placeholder first (by rfl), digitsIn_append _ (by decide), hi]
      rfl

end Placeholder

open Placeholder

/-- What follows the operator in the text of a clause. -/
def Clause.operands (k : Clause) (first : Nat) : String :=
  match k.operator with
  | .isNull | .isNotNull => ""
  | .isIn | .notIn => " (" ++ ", ".intercalate (placeholders first k.values.length) ++ ")"
  | .between => " " ++ placeholder first ++ " AND " ++ placeholder (first + 1)
  | _ => " " ++ placeholder first

/-- A clause is written as its column, its operator and its operands. -/
theorem Clause.text_eq (k : Clause) (first : Nat) :
    k.text first = k.column ++ " " ++ k.operator.sql ++ k.operands first := by
  obtain ⟨column, op, values⟩ := k
  unfold text operands
  cases op <;> simp only [String.append_assoc, String.append_empty]

/-- An operator is written without dollar signs. -/
theorem Operator.dollar_not_mem_sql (op : Operator) : '$' ∉ op.sql.toList := by
  cases op <;> decide

private theorem Clause.digitsIn_operands {k : Clause} (hf : k.Fits) (first : Nat) {rest : List Char}
    (h : startsWithDigit rest = false) :
    digitsIn ((k.operands first).toList ++ rest) =
      digitsFrom first k.values.length ++ digitsIn rest := by
  obtain ⟨column, op, values⟩ := k
  simp only [Fits] at hf
  unfold operands
  cases op with
  | isNull | isNotNull =>
    subst hf
    rfl
  | isIn | notIn =>
    simp only [String.toList_append, List.append_assoc]
    rw [digitsIn_append _ (by decide), digitsIn_placeholders _ _ (by rfl),
      digitsIn_append _ (by decide)]
  | between =>
    simp only [String.toList_append, List.append_assoc]
    rw [digitsIn_append _ (by decide), digitsIn_placeholder _ (by rfl),
      digitsIn_append _ (by decide), digitsIn_placeholder _ h, hf]
    rfl
  | _ =>
    simp only [String.toList_append, List.append_assoc]
    rw [digitsIn_append _ (by decide), digitsIn_placeholder _ h, hf]
    rfl

/-- The placeholders of a clause, whose column has none, are one for each of its values. -/
theorem Clause.digitsIn_text {k : Clause} (hf : k.Fits) (hc : '$' ∉ k.column.toList) (first : Nat)
    {rest : List Char} (h : startsWithDigit rest = false) :
    digitsIn ((k.text first).toList ++ rest) =
      digitsFrom first k.values.length ++ digitsIn rest := by
  have hhead : '$' ∉ (k.column ++ " " ++ k.operator.sql).toList := by
    simp [hc, k.operator.dollar_not_mem_sql]
  rw [text_eq, String.toList_append, List.append_assoc, digitsIn_append _ hhead,
    digitsIn_operands hf first h]

/-- The placeholders of a numbered clause go on from its first index. -/
theorem NumberedClause.digitsIn_text {k : NumberedClause} (hf : k.clause.Fits)
    (hc : '$' ∉ k.clause.column.toList) :
    digitsIn k.text.toList = digitsFrom k.first k.clause.values.length := by
  have hd : digitsIn (k.text.toList ++ []) = _ := Clause.digitsIn_text hf hc k.first rfl
  rwa [List.append_nil, digitsIn, List.append_nil] at hd

end TabularReport

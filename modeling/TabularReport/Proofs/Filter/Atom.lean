import TabularReport.Proofs.Filter.Column
import TabularReport.Proofs.Filter.Placeholder
import TabularReport.Proofs.Filter.Reading

/-!
# Clauses are atoms

A clause whose column is written with plain names is read as a single atom: neither a parenthesis
nor an `AND` that it has is mistaken for one of the condition.
-/

namespace TabularReport

open Text

private theorem Mark.ofText_placeholder (n : Nat) :
    ∃ w, ofText (placeholder n) = [.word w] ∧ isConnective w = false := by
  have hw : ∀ c ∈ '$' :: Nat.toDigits 10 n, isWordChar c = true := by
    intro c hc
    rcases List.mem_cons.mp hc with rfl | hc
    · decide
    · exact isWordChar_of_isFoldedPart
        (by simp [Identifier.isFoldedPart, Identifier.isPart, Placeholder.isDigit_toDigits hc])
  refine ⟨'$' :: Nat.toDigits 10 n, ?_, ?_⟩
  · rw [ofText, Placeholder.toList_placeholder, ofChars_word (List.cons_ne_nil _ _) hw]
  · simp [isConnective, isKeyword]

private theorem Mark.isPlain_placeholder (n : Nat) :
    ∀ m ∈ ofText (placeholder n), m.isPlain = true := by
  obtain ⟨w, hw, hc⟩ := ofText_placeholder n
  intro m hm
  rw [hw, List.mem_singleton] at hm
  rw [hm, isPlain, hc]
  rfl

private theorem Placeholder.not_mem_placeholders {p : Char}
    (hp : p ≠ '$' ∧ isDigit p = false ∧ p ≠ ',' ∧ p ≠ ' ') (first n : Nat) :
    p ∉ (", ".intercalate (placeholders first n)).toList := by
  have hone : ∀ k, p ∉ (placeholder k).toList := by
    intro k hm
    rw [toList_placeholder] at hm
    rcases List.mem_cons.mp hm with h | h
    · exact hp.1 h
    · rw [isDigit_toDigits h] at hp
      cases hp.2.1
  have happend : ∀ a b : String, p ∉ a.toList → p ∉ b.toList → p ∉ (a ++ b).toList := by
    intro a b ha hb
    rw [String.toList_append, List.mem_append, not_or]
    exact ⟨ha, hb⟩
  have hseparator : p ∉ ", ".toList := by
    simp [hp.2.2.1, hp.2.2.2]
  exact Text.intercalate_induction (P := fun s ↦ p ∉ s.toList) (by simp) happend hseparator
    (forall_mem_placeholders hone first n)

private theorem Operator.isPlain_sql {op : Operator} (h : op ≠ .between) :
    ∀ m ∈ Mark.ofText op.sql, m.isPlain = true := by
  cases op <;> first | decide | exact absurd rfl h

private theorem Mark.ofChars_call {w argument : List Char} (hw : IsName w)
    (ha : IsArgument argument) (rest : List Char) :
    ∃ ws : List (List Char), ofChars (w ++ '(' :: (argument ++ ')' :: rest)) =
      .word w :: (.opening :: (ws.map .word ++ [.closing]) ++ ofChars rest) := by
  have hc : ofChars (argument ++ ')' :: rest) = ofChars argument ++ .closing :: ofChars rest :=
    ofChars_append argument rfl
  obtain ⟨ws, hws⟩ := ofChars_words ⟨ha.not_mem (c := '(') (by decide), ha.not_mem (by decide)⟩
  refine ⟨ws, ?_⟩
  rw [ofChars_append w rfl, ofChars_word hw.nonempty hw.isWordChar]
  have hm : ofChars ('(' :: (argument ++ ')' :: rest)) =
      .opening :: (ws.map .word ++ .closing :: ofChars rest) := by
    rw [← hws, ← hc]
    rfl
  rw [hm]
  simp

namespace ReadingState

variable {outer : List OpenGroup} {g : OpenGroup} {ms : List Mark}

private theorem run_after {cs : List Char} (h : Mark.IsColumn cs) :
    run ⟨outer, g, .atom ms 0 false⟩ (Mark.ofChars cs) =
      some ⟨outer, g, .atom (ms ++ Mark.ofChars cs) 0 false⟩ := by
  induction h generalizing ms with
  | nil => exact run_plain fun m hm ↦ absurd hm List.not_mem_nil
  | @name w hw =>
    rw [Mark.ofChars_word hw.nonempty hw.isWordChar]
    exact run_plain (by simp [Mark.isPlain, hw.plain])
  | @call w argument rest hw ha _ ih =>
    obtain ⟨ws, hm⟩ := Mark.ofChars_call hw ha rest
    have hp : run ⟨outer, g, .atom ms 0 false⟩ [.word w] =
        some ⟨outer, g, .atom (ms ++ [.word w]) 0 false⟩ :=
      run_plain (by simp [Mark.isPlain, hw.plain])
    rw [hm, ← List.singleton_append, run_append, hp, Option.bind_some, run_append, run_parentheses,
      Option.bind_some, ih]
    simp only [List.append_assoc]

private theorem run_column {cs : List Char} (h : Mark.IsColumn cs) (hne : cs ≠ []) :
    run ⟨outer, g, .missing⟩ (Mark.ofChars cs) =
      some ⟨outer, g, .atom (Mark.ofChars cs) 0 false⟩ := by
  cases h with
  | nil => exact absurd rfl hne
  | @name w hw =>
    rw [Mark.ofChars_word hw.nonempty hw.isWordChar, run, step_missing hw.plain]
    rfl
  | @call w argument rest hw ha hr =>
    obtain ⟨ws, hm⟩ := Mark.ofChars_call hw ha rest
    rw [hm, run, step_missing hw.plain, Option.bind_some, run_append, run_parentheses,
      Option.bind_some, run_after hr]
    rfl

end ReadingState

/-- Whether a text is read as an atom wherever an operand may stand. -/
def Text.IsAtom (s : String) : Prop :=
  ∀ (outer : List OpenGroup) (g : OpenGroup),
    ReadingState.run ⟨outer, g, .missing⟩ (Mark.ofText s) =
      some ⟨outer, g, .atom (Mark.ofText s) 0 false⟩

/-- The text of a column is an atom. -/
theorem Mark.IsColumn.isAtom {s : String} (h : s.toList ≠ [] ∧ IsColumn s.toList) :
    Text.IsAtom s := fun _ _ ↦ ReadingState.run_column h.2 h.1

namespace ReadingState

variable {outer : List OpenGroup} {g : OpenGroup} {ms : List Mark}

private theorem run_operands (k : Clause) (first : Nat) :
    run ⟨outer, g, .atom ms 0 false⟩ (Mark.ofText (k.operator.sql ++ k.operands first)) =
      some ⟨outer, g, .atom (ms ++ Mark.ofText (k.operator.sql ++ k.operands first)) 0 false⟩ := by
  have hp := Mark.isPlain_placeholder first
  unfold Clause.operands
  cases k.operator with
  | isNull | isNotNull =>
    dsimp only
    rw [String.append_empty]
    exact run_plain (Operator.isPlain_sql (by decide))
  | isIn | notIn =>
    have hn : ∀ p, p ≠ '$' ∧ isDigit p = false ∧ p ≠ ',' ∧ p ≠ ' ' →
        p ∉ (", ".intercalate (placeholders first k.values.length)).toList := fun p hp ↦
      Placeholder.not_mem_placeholders hp first k.values.length
    obtain ⟨ws, hws⟩ := Mark.ofChars_words ⟨hn '(' (by decide), hn ')' (by decide)⟩
    have hin : Mark.ofText (", ".intercalate (placeholders first k.values.length)) =
        ws.map .word := hws
    have hs : " (" ++ ", ".intercalate (placeholders first k.values.length) ++ ")" =
        " " ++ ("(" ++ ", ".intercalate (placeholders first k.values.length) ++ ")") := by
      simp only [← String.append_assoc]
      rfl
    dsimp only
    rw [hs, Mark.ofText_append_blank, Mark.ofText_parenthesized, hin, run_append,
      run_plain (Operator.isPlain_sql (by decide)), Option.bind_some, run_parentheses,
      List.append_assoc]
  | between =>
    obtain ⟨low, hl, hlc⟩ := Mark.ofText_placeholder first
    obtain ⟨high, hh, hhc⟩ := Mark.ofText_placeholder (first + 1)
    have hs : Mark.ofText
        (Operator.between.sql ++ (" " ++ placeholder first ++ " AND " ++ placeholder (first + 1))) =
        [.word "BETWEEN".toList, .word low, .word "AND".toList, .word high] := by
      have hand : " AND " ++ placeholder (first + 1) =
          " " ++ ("AND" ++ (" " ++ placeholder (first + 1))) := by
        simp only [← String.append_assoc]
        rfl
      have hb : Mark.ofText Operator.between.sql = [.word "BETWEEN".toList] := by decide
      have ha : Mark.ofText "AND" = [.word "AND".toList] := by decide
      rw [String.append_assoc, String.append_assoc, hand, Mark.ofText_append_blank,
        Mark.ofText_append_blank, Mark.ofText_append_blank, hl, hh, hb, ha]
      rfl
    dsimp only
    rw [hs]
    exact run_range hlc hhc
  | _ =>
    dsimp only
    rw [Mark.ofText_append_blank]
    refine run_plain fun m hm ↦ ?_
    rcases List.mem_append.mp hm with hm | hm
    · exact Operator.isPlain_sql (by decide) m hm
    · exact hp m hm

end ReadingState

/-- Whether the column of a clause is read as an atom. -/
def Clause.IsReadable (k : Clause) : Prop := Text.IsAtom k.column

/-- The marks of a clause, by which it is known as an atom. -/
def NumberedClause.marks (n : NumberedClause) : List Mark := Mark.ofText n.text

/-- A clause is read as an atom. -/
theorem ReadingState.run_clause {outer : List OpenGroup} {g : OpenGroup} {n : NumberedClause}
    (h : n.clause.IsReadable) :
    run ⟨outer, g, .missing⟩ n.marks = some ⟨outer, g, .atom n.marks 0 false⟩ := by
  rw [NumberedClause.marks, NumberedClause.text, Clause.text_eq, String.append_assoc,
    String.append_assoc, Mark.ofText_append_blank, run_append, h outer g, Option.bind_some,
    run_operands]

end TabularReport

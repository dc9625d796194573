import TabularReport.Proofs.Filter.Mark
import TabularReport.Proofs.Filter.Remainder

/-!
# Reading conditions

A condition is read mark by mark. Parentheses that stand in the place of an operand group, all
others belong to the operand around them. `AND` binds tighter than `OR`, and the `AND` after a
`BETWEEN` belongs to its range. An operand without connectives is an atom, which is known by its
marks.
-/

namespace TabularReport

/-- Operands with a connective between them; one operand stands for itself. -/
def Formula.ofOperands {α : Type} (logic : Logic) : List (Formula α) → Formula α
  | [m] => m
  | ms => .joined logic ms

/-- The operand that is being read. An atom has marks, parentheses that are still open, and perhaps
a `BETWEEN` that waits for its `AND`. -/
inductive Operand where
  | missing
  | atom (marks : List Mark) (depth : Nat) (ranged : Bool)
  | group (formula : Formula (List Mark))

/-- What has been read of a group: its finished disjuncts, and the finished conjuncts of the next
one. -/
structure OpenGroup where
  disjuncts : List (Formula (List Mark)) := []
  conjuncts : List (Formula (List Mark)) := []

/-- What has been read of a condition: the groups around, the innermost group first, and an operand.
-/
structure ReadingState where
  outer : List OpenGroup := []
  group : OpenGroup := {}
  operand : Operand := .missing

/-- The formula of an operand that is complete. -/
def Operand.formula? : Operand → Option (Formula (List Mark))
  | .missing => none
  | .atom marks 0 false => some (.atom marks)
  | .atom _ _ _ => none
  | .group f => some f

namespace OpenGroup

/-- Add an operand before a connective. -/
def join (g : OpenGroup) (f : Formula (List Mark)) : Logic → OpenGroup
  | .and => { g with conjuncts := g.conjuncts ++ [f] }
  | .or => { disjuncts := g.disjuncts ++ [.ofOperands .and (g.conjuncts ++ [f])] }

/-- The formula of a group whose last operand is complete. -/
def close (g : OpenGroup) (f : Formula (List Mark)) : Formula (List Mark) :=
  .ofOperands .or (g.disjuncts ++ [.ofOperands .and (g.conjuncts ++ [f])])

end OpenGroup

namespace ReadingState

/-- Read a connective, which ends an operand. -/
def connect (s : ReadingState) (logic : Logic) : Option ReadingState :=
  s.operand.formula?.map fun f => { s with group := s.group.join f logic, operand := .missing }

/-- Read a word. -/
def word (s : ReadingState) (w : List Char) : Option ReadingState :=
  match s.operand with
  | .atom marks (depth + 1) ranged =>
    some { s with operand := .atom (marks ++ [.word w]) (depth + 1) ranged }
  | .atom marks 0 true =>
    some { s with operand := .atom (marks ++ [.word w]) 0 (!Mark.isKeyword "and" w) }
  | operand =>
    if Mark.isKeyword "and" w then s.connect .and
    else if Mark.isKeyword "or" w then s.connect .or
    else
      match operand with
      | .missing => some { s with operand := .atom [.word w] 0 (Mark.isKeyword "between" w) }
      | .atom marks depth _ =>
        some { s with operand := .atom (marks ++ [.word w]) depth (Mark.isKeyword "between" w) }
      | .group _ => none

/-- Read an opening parenthesis: of a group, or inside of an atom. -/
def opening (s : ReadingState) : Option ReadingState :=
  match s.operand with
  | .missing => some { outer := s.group :: s.outer }
  | .atom marks depth ranged =>
    some { s with operand := .atom (marks ++ [.opening]) (depth + 1) ranged }
  | .group _ => none

/-- Read a closing parenthesis: inside of an atom, or of a group. -/
def closing (s : ReadingState) : Option ReadingState :=
  match s.operand, s.outer with
  | .atom marks (depth + 1) ranged, _ =>
    some { s with operand := .atom (marks ++ [.closing]) depth ranged }
  | operand, g :: outer =>
    operand.formula?.map fun f => { outer, group := g, operand := .group (s.group.close f) }
  | _, [] => none

/-- Read a mark. -/
def step (s : ReadingState) : Mark → Option ReadingState
  | .opening => s.opening
  | .closing => s.closing
  | .word w => s.word w

/-- Read marks from left to right. -/
def run (s : ReadingState) : List Mark → Option ReadingState
  | [] => some s
  | m :: rest => (s.step m).bind fun s => s.run rest

/-- The formula that has been read when no group is open and the last operand is complete. -/
def formula? (s : ReadingState) : Option (Formula (List Mark)) :=
  if s.outer.isEmpty then s.operand.formula?.map s.group.close else none

end ReadingState

/-- The condition that a text says; nothing when it is no condition. -/
def readCondition? (s : String) : Option (Formula (List Mark)) :=
  (ReadingState.run {} (Mark.ofText s)).bind ReadingState.formula?

namespace ReadingState

variable {outer : List OpenGroup} {g : OpenGroup} {ms : List Mark}

/-- Marks are read one after another. -/
theorem run_append (s : ReadingState) (a b : List Mark) :
    s.run (a ++ b) = (s.run a).bind fun s => s.run b := by
  induction a generalizing s with
  | nil => rfl
  | cons m rest ih =>
    rw [List.cons_append, run, run]
    cases s.step m with
    | none => rfl
    | some s => exact ih s

private theorem run_inside (depth : Nat) (ranged : Bool) (ws : List (List Char)) :
    run ⟨outer, g, .atom ms (depth + 1) ranged⟩ (ws.map .word) =
      some ⟨outer, g, .atom (ms ++ ws.map .word) (depth + 1) ranged⟩ := by
  induction ws generalizing ms with
  | nil => rw [List.map_nil, List.append_nil, run]
  | cons w rest ih =>
    have hs : step ⟨outer, g, .atom ms (depth + 1) ranged⟩ (.word w) =
        some ⟨outer, g, .atom (ms ++ [.word w]) (depth + 1) ranged⟩ := rfl
    rw [List.map_cons, run, hs, Option.bind_some, ih, List.append_assoc]
    rfl

/-- A plain word begins an atom. -/
theorem step_missing {w : List Char} (h : Mark.isConnective w = false) :
    step ⟨outer, g, .missing⟩ (.word w) = some ⟨outer, g, .atom [.word w] 0 false⟩ := by
  obtain ⟨ha, ho, hb⟩ := Mark.isKeyword_eq_false h
  simp [step, word, ha, ho, hb]

/-- Plain words go on with an atom. -/
theorem run_plain {ws : List Mark} (h : ∀ m ∈ ws, m.isPlain = true) :
    run ⟨outer, g, .atom ms 0 false⟩ ws = some ⟨outer, g, .atom (ms ++ ws) 0 false⟩ := by
  induction ws generalizing ms with
  | nil => rw [List.append_nil, run]
  | cons m rest ih =>
    have hm := h m List.mem_cons_self
    have hs : step ⟨outer, g, .atom ms 0 false⟩ m = some ⟨outer, g, .atom (ms ++ [m]) 0 false⟩ := by
      cases m with
      | word w =>
        obtain ⟨ha, ho, hb⟩ := Mark.isKeyword_eq_false (Bool.not_eq_true' _ ▸ hm)
        simp [step, word, ha, ho, hb]
      | _ => cases hm
    rw [run, hs, Option.bind_some, ih fun v hv ↦ h v (List.mem_cons_of_mem m hv), List.append_assoc]
    rfl

/-- Words in parentheses belong to the atom before them. -/
theorem run_parentheses (ws : List (List Char)) :
    run ⟨outer, g, .atom ms 0 false⟩ (.opening :: (ws.map .word ++ [.closing])) =
      some ⟨outer, g, .atom (ms ++ .opening :: (ws.map .word ++ [.closing])) 0 false⟩ := by
  have hs : step ⟨outer, g, .atom ms 0 false⟩ .opening =
      some ⟨outer, g, .atom (ms ++ [.opening]) 1 false⟩ := rfl
  have hc : run ⟨outer, g, .atom (ms ++ [.opening] ++ ws.map .word) 1 false⟩ [.closing] =
      some ⟨outer, g, .atom (ms ++ [.opening] ++ ws.map .word ++ [.closing]) 0 false⟩ := rfl
  rw [run, hs, Option.bind_some, run_append, run_inside, Option.bind_some, hc]
  simp only [List.append_assoc, List.singleton_append]
  rfl

/-- A range and its two bounds belong to the atom. -/
theorem run_range {low high : List Char} (hl : Mark.isConnective low = false)
    (hh : Mark.isConnective high = false) :
    run ⟨outer, g, .atom ms 0 false⟩
        [.word "BETWEEN".toList, .word low, .word "AND".toList, .word high] =
      some ⟨outer, g,
        .atom (ms ++ [.word "BETWEEN".toList, .word low, .word "AND".toList,
          .word high]) 0 false⟩ := by
  obtain ⟨hla, -, -⟩ := Mark.isKeyword_eq_false hl
  -- The operand waits for the `AND` of the range when it is read.
  have hrange : run ⟨outer, g, .atom ms 0 false⟩
      [.word "BETWEEN".toList, .word low, .word "AND".toList] =
      some ⟨outer, g, .atom (ms ++
        [.word "BETWEEN".toList, .word low, .word "AND".toList]) 0 false⟩ := by
    have hba : Mark.isKeyword "and" "BETWEEN".toList = false := by decide
    have hbo : Mark.isKeyword "or" "BETWEEN".toList = false := by decide
    have hbb : Mark.isKeyword "between" "BETWEEN".toList = true := by decide
    have haa : Mark.isKeyword "and" "AND".toList = true := by decide
    simp only [run, step, word, hba, hbo, hbb, hla, haa, Option.bind_some, Bool.false_eq_true,
      if_false, Bool.not_false, Bool.not_true, List.append_assoc]
    rfl
  have hlast : run ⟨outer, g,
      .atom (ms ++ [.word "BETWEEN".toList, .word low, .word "AND".toList]) 0 false⟩
      [.word high] = _ := run_plain (by simp [Mark.isPlain, hh])
  exact (run_append _ [.word "BETWEEN".toList, .word low, .word "AND".toList] [.word high]).trans
    (by rw [hrange, Option.bind_some, hlast, List.append_assoc]; rfl)

/-- A connective after a complete operand joins it to the group. -/
theorem step_connective {o : Operand} {f : Formula (List Mark)} (h : o.formula? = some f)
    (logic : Logic) :
    step ⟨outer, g, o⟩ (.word logic.keyword.toList) = some ⟨outer, g.join f logic, .missing⟩ := by
  have hand : Mark.isKeyword "and" Logic.or.keyword.toList = false := by decide
  have hor : Mark.isKeyword "or" Logic.or.keyword.toList = true := by decide
  have ha : Mark.isKeyword "and" Logic.and.keyword.toList = true := by decide
  cases o with
  | missing => cases h
  | atom marks depth ranged =>
    cases depth with
    | succ depth => cases h
    | zero =>
      cases ranged with
      | true => cases h
      | false => cases logic <;> simp [step, word, connect, h, hand, hor, ha]
  | group r => cases logic <;> simp [step, word, connect, h, hand, hor, ha]

/-- A closing parenthesis after a complete operand closes the group. -/
theorem step_closing {o : Operand} {f : Formula (List Mark)} (h : o.formula? = some f)
    (before : OpenGroup) :
    step ⟨before :: outer, g, o⟩ .closing = some ⟨outer, before, .group (g.close f)⟩ := by
  cases o with
  | missing => cases h
  | atom marks depth ranged =>
    cases depth with
    | succ depth => cases h
    | zero => simp [step, closing, h]
  | group r => simp [step, closing, h]

end ReadingState

end TabularReport

import TabularReport.Proofs.Filter.Atom

/-!
# What a compiled filter means

The text of a compiled filter, read as a condition, has the value of what is left of the filter's
tree, whatever the values of its atoms.
-/

namespace TabularReport

/-- The value of two conditions with a connective between them. -/
def Logic.combine : Logic → Bool → Bool → Bool
  | .and, a, b => a && b
  | .or, a, b => a || b

/-- The value of no conditions with a connective between them. -/
def Logic.neutral : Logic → Bool
  | .and => true
  | .or => false

namespace Formula

mutual

/-- The value of a formula whose atoms have given values. -/
def eval {α : Type} (value : α → Bool) : Formula α → Bool
  | .atom a => value a
  | .joined logic ms => evalMembers value logic ms

/-- The value of formulas with a connective between them. -/
def evalMembers {α : Type} (value : α → Bool) (logic : Logic) : List (Formula α) → Bool
  | [] => logic.neutral
  | m :: rest => logic.combine (m.eval value) (evalMembers value logic rest)

end

variable {α : Type} (value : α → Bool)

/-- The value of formulas in two lists. -/
theorem evalMembers_append (logic : Logic) (a b : List (Formula α)) :
    evalMembers value logic (a ++ b) =
      logic.combine (evalMembers value logic a) (evalMembers value logic b) := by
  induction a with
  | nil => cases logic <;> rfl
  | cons m rest ih =>
    rw [List.cons_append, evalMembers, evalMembers, ih]
    cases logic
    · exact (Bool.and_assoc _ _ _).symm
    · exact (Bool.or_assoc _ _ _).symm

/-- The value of a single formula in a list. -/
theorem evalMembers_singleton (logic : Logic) (m : Formula α) :
    evalMembers value logic [m] = m.eval value := by
  rw [evalMembers, evalMembers]
  cases logic
  · exact Bool.and_true _
  · exact Bool.or_false _

/-- The value of operands with a connective between them. -/
theorem eval_ofOperands (logic : Logic) (ms : List (Formula α)) :
    (ofOperands logic ms).eval value = evalMembers value logic ms := by
  unfold ofOperands
  split
  · rw [evalMembers_singleton]
  · rw [eval]

end Formula

namespace OpenGroup

variable (v : List Mark → Bool)

/-- The value of a group whose last operand has a given value. -/
def value (g : OpenGroup) (last : Bool) : Bool :=
  Formula.evalMembers v .or g.disjuncts || (Formula.evalMembers v .and g.conjuncts && last)

private theorem eval_close (g : OpenGroup) (f : Formula (List Mark)) :
    (g.close f).eval v = g.value v (f.eval v) := by
  rw [close, Formula.eval_ofOperands, Formula.evalMembers_append, Formula.evalMembers_singleton,
    Formula.eval_ofOperands, Formula.evalMembers_append, Formula.evalMembers_singleton]
  rfl

private theorem value_join_and (g : OpenGroup) (f : Formula (List Mark)) (last : Bool) :
    (g.join f .and).value v last = g.value v (f.eval v && last) := by
  simp only [join, value, Formula.evalMembers_append, Formula.evalMembers_singleton, Logic.combine,
    Bool.and_assoc]

private theorem value_join_or (g : OpenGroup) (f : Formula (List Mark)) (last : Bool) :
    (g.join f .or).value v last = (g.value v (f.eval v) || last) := by
  rw [join, value, Formula.evalMembers_append, Formula.evalMembers_singleton,
    Formula.eval_ofOperands, Formula.evalMembers_append, Formula.evalMembers_singleton]
  rfl

private theorem value_or {g : OpenGroup} (h : g.conjuncts = []) (a b : Bool) :
    g.value v (a || b) = (g.value v a || b) := by
  simp only [value, h, Formula.evalMembers, Logic.neutral, Bool.true_and, Bool.or_assoc]

-- An operand before a connective, with further operands after it. A disjunct ends the conjunction
-- before it, which must therefore be a group's first operand or follow another disjunct.
private theorem value_join {g : OpenGroup} {logic : Logic} (h : logic = .or → g.conjuncts = [])
    (f : Formula (List Mark)) (last : Bool) :
    (g.join f logic).value v last = g.value v (logic.combine (f.eval v) last) := by
  cases logic with
  | and => exact value_join_and v g f last
  | or => rw [value_join_or, Logic.combine, value_or v (h rfl)]

private theorem conjuncts_join (g : OpenGroup) (f : Formula (List Mark)) {logic : Logic}
    (h : logic = .or) :
    (g.join f logic).conjuncts = [] := by
  subst h
  rfl

private theorem value_empty (last : Bool) : value v {} last = last := by
  simp only [value, Formula.evalMembers, Logic.neutral, Bool.false_or, Bool.true_and]

end OpenGroup

namespace Formula

mutual

/-- Whether all clauses of a formula are readable and no group is empty. -/
def IsReadable : Formula NumberedClause → Prop
  | .atom n => n.clause.IsReadable
  | .joined _ members => members ≠ [] ∧ AreReadable members

/-- Whether all formulas of a list are readable. -/
def AreReadable : List (Formula NumberedClause) → Prop
  | [] => True
  | m :: rest => m.IsReadable ∧ AreReadable rest

end

/-- Formulas in two lists are readable when those of each list are. -/
theorem areReadable_append {a b : List (Formula NumberedClause)} (ha : AreReadable a)
    (hb : AreReadable b) :
    AreReadable (a ++ b) := by
  induction a with
  | nil => exact hb
  | cons m rest ih => exact ⟨ha.1, ih ha.2⟩

/-- Readable members that are joined are readable. -/
theorem isReadable_join? {logic : Logic} {ms : List (Formula NumberedClause)}
    {f : Formula NumberedClause}
    (hm : AreReadable ms) (h : join? logic ms = some f) : f.IsReadable := by
  cases ms with
  | nil => cases h
  | cons m rest =>
    cases h
    exact ⟨List.cons_ne_nil m rest, hm⟩

end Formula

private theorem Condition.isReadable_clause? {c : Condition} {parameters : Fields} {k : Clause}
    (hc : Text.IsAtom c.column) (h : c.clause? parameters = some k) : k.IsReadable := by
  rw [← (clause?_fits h).1] at hc
  exact hc

mutual

private theorem FilterNode.isReadable_remainder? (parameters : Fields) (first : Nat) :
    (n : FilterNode) →
    (∀ c ∈ n.leaves, Text.IsAtom c.column) →
    ∀ f, n.remainder? parameters first = some f → f.IsReadable
  | .leaf c, hc, f, h => by
    obtain ⟨k, hk, rfl⟩ := Option.map_eq_some_iff.mp h
    exact Condition.isReadable_clause? (hc c (List.mem_singleton_self c)) hk
  | .group _ nodes, hc, _, h =>
    Formula.isReadable_join? (areReadable_of_isAtom parameters first nodes hc) h

/-- What is left of a list of nodes with readable columns is readable. -/
theorem FilterNode.areReadable_of_isAtom (parameters : Fields) (first : Nat) :
    (ns : List FilterNode) → (∀ c ∈ leavesOf ns, Text.IsAtom c.column) →
    Formula.AreReadable (remainders parameters first ns)
  | [], _ => trivial
  | n :: rest, hc => by
    have hn := isReadable_remainder? parameters first n fun c h ↦ hc c (List.mem_append_left _ h)
    have hr := areReadable_of_isAtom parameters
      (first + (Clause.allValues (n.clauses parameters)).length) rest
      fun c h ↦ hc c (List.mem_append_right _ h)
    refine Formula.areReadable_append ?_ hr
    cases he : n.remainder? parameters first with
    | none => exact trivial
    | some f => exact ⟨hn f he, trivial⟩

end

private theorem FilterNode.areReadable_remainders (parameters : Fields) (first : Nat)
    (ns : List FilterNode)
    (hc : ∀ c ∈ leavesOf ns, Identifier.isSafe c.column = true ∧
      Mark.isConnective c.column.toList = false) :
    Formula.AreReadable (remainders parameters first ns) :=
  areReadable_of_isAtom parameters first ns fun c h ↦
    Mark.IsColumn.isAtom (Identifier.isColumn_of_isSafe (hc c h).1 (hc c h).2)

/-- Whether an operand is complete and has the value of a formula, whatever the values of its
clauses. -/
def Operand.Says (o : Operand) (f : Formula NumberedClause) : Prop :=
  ∃ r, o.formula? = some r ∧ ∀ v, r.eval v = f.eval fun n ↦ v n.marks

private theorem Formula.ofText_separator (logic : Logic) (a b : String) :
    Mark.ofText (a ++ separator logic ++ b) =
      Mark.ofText a ++ .word logic.keyword.toList :: Mark.ofText b := by
  have hk : Mark.ofText logic.keyword = [.word logic.keyword.toList] := by
    cases logic <;> decide
  have hs : a ++ separator logic ++ b = a ++ (" " ++ (logic.keyword ++ (" " ++ b))) := by
    simp only [separator, String.append_assoc]
  rw [hs, Mark.ofText_append_blank, Mark.ofText_append_blank, hk]
  rfl

mutual

private theorem Formula.run_memberText : (f : Formula NumberedClause) → f.IsReadable →
    ∀ (outer : List OpenGroup) (g : OpenGroup), ∃ o : Operand, o.Says f ∧
      ReadingState.run ⟨outer, g, .missing⟩ (Mark.ofText f.memberText) = some ⟨outer, g, o⟩
  | .atom n, h, outer, g => by
    refine ⟨.atom n.marks 0 false, ⟨.atom n.marks, rfl, fun v ↦ ?_⟩, ReadingState.run_clause h⟩
    rw [eval, eval]
  | .joined logic members, h, outer, g => by
    -- The parenthesis opens an empty group, so nothing before it counts among the members.
    obtain ⟨g', o, r, hr, hv, hrun⟩ :=
      run_memberTexts logic members h.1 h.2 (g :: outer) {} fun _ ↦ rfl
    have hopen : ReadingState.step ⟨outer, g, .missing⟩ .opening =
        some ⟨g :: outer, {}, .missing⟩ := rfl
    have hclose : ReadingState.run ⟨g :: outer, g', o⟩ [.closing] =
        some ⟨outer, g, .group (g'.close r)⟩ := by
      rw [ReadingState.run, ReadingState.step_closing hr g]
      rfl
    refine ⟨.group (g'.close r), ⟨g'.close r, rfl, fun v ↦ ?_⟩, ?_⟩
    · rw [OpenGroup.eval_close, hv, OpenGroup.value_empty, eval]
    · rw [memberText, enclose, text, memberTexts_eq_map, Mark.ofText_parenthesized,
        ReadingState.run, hopen, Option.bind_some, ReadingState.run_append, hrun, Option.bind_some,
        hclose]

private theorem Formula.run_memberTexts (logic : Logic) :
    (ms : List (Formula NumberedClause)) → ms ≠ [] →
    AreReadable ms → ∀ (outer : List OpenGroup) (g : OpenGroup), (logic = .or → g.conjuncts = []) →
    ∃ (g' : OpenGroup) (o : Operand) (r : Formula (List Mark)), o.formula? = some r ∧
      (∀ v, g'.value v (r.eval v) = g.value v (evalMembers (fun n ↦ v n.marks) logic ms)) ∧
      ReadingState.run ⟨outer, g, .missing⟩
          (Mark.ofText ((separator logic).intercalate (ms.map memberText))) = some ⟨outer, g', o⟩
  | [], h, _, _, _, _ => absurd rfl h
  | [m], _, h, outer, g, _ => by
    obtain ⟨o, ⟨r, hr, hv⟩, hrun⟩ := run_memberText m h.1 outer g
    refine ⟨g, o, r, hr, fun v ↦ ?_, ?_⟩
    · rw [hv, evalMembers_singleton]
    · simpa using hrun
  | m :: m' :: rest, _, h, outer, g, hg => by
    obtain ⟨o, ⟨r, hr, hv⟩, hrun⟩ := run_memberText m h.1 outer g
    obtain ⟨g', o', r', hr', hv', hrun'⟩ := run_memberTexts logic (m' :: rest)
      (List.cons_ne_nil m' rest) h.2 outer (g.join r logic) (g.conjuncts_join r)
    refine ⟨g', o', r', hr', fun v ↦ ?_, ?_⟩
    -- The members after the first one are read into a group that the first one has joined.
    · rw [hv', OpenGroup.value_join v hg, hv]
      rfl
    · rw [List.map_cons, List.map_cons, String.intercalate_cons_cons, ← List.map_cons,
        ofText_separator, ReadingState.run_append, hrun, Option.bind_some, ReadingState.run,
        ReadingState.step_connective hr, Option.bind_some, hrun']

end

/-- A readable formula is read as a condition that says what the formula says. -/
theorem Formula.readCondition?_text {f : Formula NumberedClause} (h : f.IsReadable) :
    ∃ r, readCondition? f.text = some r ∧ ∀ v, r.eval v = f.eval fun n ↦ v n.marks := by
  cases f with
  | atom n =>
    refine ⟨.atom n.marks, ?_, fun v ↦ ?_⟩
    · have hrun : ReadingState.run {} (Mark.ofText (text (.atom n))) =
          some ⟨[], {}, .atom n.marks 0 false⟩ :=
        ReadingState.run_clause h
      rw [readCondition?, hrun, Option.bind_some]
      rfl
    · rw [eval, eval]
  | joined logic members =>
    obtain ⟨g, o, r, hr, hv, hrun⟩ := run_memberTexts logic members h.1 h.2 [] {} fun _ ↦ rfl
    have hread : ReadingState.formula? ⟨[], g, o⟩ = some (g.close r) := by
      simp [ReadingState.formula?, hr]
    refine ⟨g.close r, ?_, fun v ↦ ?_⟩
    · rw [readCondition?, text, memberTexts_eq_map, hrun, Option.bind_some, hread]
    · rw [OpenGroup.eval_close, hv, OpenGroup.value_empty, eval]

/-- No clause is left of a filter exactly when none of its conditions contributes. -/
theorem FilterGroup.clauses_eq_nil_iff (g : FilterGroup) (parameters : Fields) :
    g.clauses parameters = [] ↔ ∀ c ∈ g.leaves, ∀ vs, ¬ c.Contributes parameters vs := by
  rw [clauses, Condition.clauses, List.filterMap_eq_nil_iff]
  exact forall₂_congr fun c _ ↦ Condition.clause?_eq_none_iff

/-- A compiled filter whose columns are safe identifiers and no connectives means what is left of
its tree. Its text is empty exactly when every condition is dropped, and is otherwise read as a
condition that has the value of what is left, whatever the values of the clauses. -/
theorem FilterGroup.meaning_compile (g : FilterGroup) (parameters : Fields) (first : Nat)
    (hc : ∀ c ∈ g.leaves, Identifier.isSafe c.column = true ∧
      Mark.isConnective c.column.toList = false) :
    ((g.compile parameters first).sql = "" ↔ ∀ c ∈ g.leaves, ∀ vs, ¬ c.Contributes parameters vs) ∧
      (g.remainder? parameters first = none ↔ ∀ c ∈ g.leaves, ∀ vs, ¬ c.Contributes parameters vs) ∧
      ∀ f, g.remainder? parameters first = some f →
        ∃ r, readCondition? (g.compile parameters first).sql = some r ∧
          ∀ v, r.eval v = f.eval fun n ↦ v n.marks := by
  refine ⟨?_, ?_, ?_⟩
  · rw [compile_sql_eq_empty_iff, clauses_eq_nil_iff]
  · rw [remainder?_eq_none_iff, clauses_eq_nil_iff]
  · intro f hf
    have hr : f.IsReadable := Formula.isReadable_join?
      (FilterNode.areReadable_remainders parameters first g.nodes hc) hf
    have hs : (g.compile parameters first).sql = f.text := by
      rw [compile_eq, hf]
      rfl
    rw [hs]
    exact Formula.readCondition?_text hr

/-- A filter of orders by their state, or else by their total and their date of delivery. -/
def ordersFilter : FilterGroup :=
  { logic := .or
    nodes :=
      [.leaf { column := "state", operator := .isIn, parameterRef := some "states" },
        .group .and
          [.leaf { column := "total", operator := .between, parameterRef := some "total" },
            .leaf { column := "note", operator := .like, parameterRef := some "note" },
            .group .or
              [.leaf { column := "note", operator := .equal, parameterRef := some "note" }],
            .leaf { column := "max(o.delivered)", operator := .isNull }]] }

/-- The parameters of a run without a note. -/
def ordersParameters : Fields :=
  [("states", .array [.string "open", .string "held"]),
    ("total", .object [("from", .string "1"), ("to", .string "9")])]

/-- What is left of the filter of orders without a note is read from its text. -/
theorem meaning_ordersFilter :
    (ordersFilter.compile ordersParameters 3).sql =
        "state IN ($3, $4) OR (total BETWEEN $5 AND $6 AND max(o.delivered) IS NULL)" ∧
      ∃ r, readCondition? (ordersFilter.compile ordersParameters 3).sql = some r ∧
        ∀ v, r.eval v =
          (v (Mark.ofText "state IN ($3, $4)") ||
            (v (Mark.ofText "total BETWEEN $5 AND $6") &&
              v (Mark.ofText "max(o.delivered) IS NULL"))) := by
  have hc : ∀ c ∈ ordersFilter.leaves,
      Identifier.isSafe c.column = true ∧ Mark.isConnective c.column.toList = false := by
    decide +kernel
  have hf : ordersFilter.remainder? ordersParameters 3 = some (.joined .or
      [.atom ⟨⟨"state", .isIn, [.string "open", .string "held"]⟩, 3⟩,
        .joined .and
          [.atom ⟨⟨"total", .between, [.string "1", .string "9"]⟩, 5⟩,
            .atom ⟨⟨"max(o.delivered)", .isNull, []⟩, 7⟩]]) := rfl
  obtain ⟨-, -, hm⟩ := ordersFilter.meaning_compile ordersParameters 3 hc
  obtain ⟨r, hr, hv⟩ := hm _ hf
  refine ⟨by decide +kernel, r, hr, fun v ↦ ?_⟩
  simp only [hv, Formula.eval, Formula.evalMembers, Logic.combine, Logic.neutral, Bool.or_false,
    Bool.and_true]
  rfl

end TabularReport

import TabularReport.Proofs.Filter.Meaning
import TabularReport.Proofs.Statement.RowCondition

/-!
# Filters as conjuncts

What is left of several filters is required together: the text of their conjunction is read as the
conjunction of what they say, whichever connectives the filters have themselves.
-/

namespace TabularReport

namespace Formula

/-- The conjuncts of a formula: the members of a conjunction, or else the formula alone. -/
def conjuncts {α : Type} : Formula α → List (Formula α)
  | .joined .and members => members
  | f => [f]

/-- A conjunction of formulas holds when all of them do. -/
theorem evalMembers_and {α : Type} (value : α → Bool) (fs : List (Formula α)) :
    evalMembers value .and fs = fs.all (·.eval value) := by
  induction fs with
  | nil => rfl
  | cons f rest ih =>
    rw [evalMembers, ih]
    rfl

private theorem all_conjuncts {α : Type} (value : α → Bool) (f : Formula α) :
    f.conjuncts.all (·.eval value) = f.eval value := by
  unfold conjuncts
  split
  · rw [← evalMembers_and, eval]
  · simp

private theorem areReadable_conjuncts {f : Formula NumberedClause} (h : f.IsReadable) :
    f.conjuncts ≠ [] ∧ AreReadable f.conjuncts := by
  unfold conjuncts
  split
  · exact h
  · exact ⟨List.cons_ne_nil _ _, h, trivial⟩

/-- Beside others, a formula is written as its conjuncts. -/
theorem conjunct_true (f : Formula NumberedClause) :
    f.conjunct true = " AND ".intercalate (f.conjuncts.map memberText) := by
  cases f with
  | atom n => simp [conjunct, conjuncts, logic, memberText, enclose]
  | joined logic members =>
    cases logic with
    | and =>
      have hs : separator .and = " AND " := rfl
      simp [conjunct, conjuncts, Formula.logic, text, memberTexts_eq_map, hs]
    | or => simp [conjunct, conjuncts, Formula.logic, memberText, enclose]

end Formula

private theorem Text.intercalate_flatMap {α : Type} (s : String) {f : α → List String} {l : List α}
    (h : ∀ a ∈ l, f a ≠ []) :
    s.intercalate (l.map fun a ↦ s.intercalate (f a)) = s.intercalate (l.flatMap f) := by
  induction l with
  | nil => rfl
  | cons a rest ih =>
    have ha := h a List.mem_cons_self
    have hr : ∀ b ∈ rest, f b ≠ [] := fun b hb ↦ h b (List.mem_cons_of_mem a hb)
    by_cases he : rest = []
    · subst he
      simp
    · have hne : rest.flatMap f ≠ [] := by
        intro hn
        obtain ⟨b, hb⟩ := List.exists_mem_of_ne_nil rest he
        exact hr b hb (List.flatMap_eq_nil_iff.mp hn b hb)
      have hm : (rest.map fun b ↦ s.intercalate (f b)) ≠ [] := by simpa using he
      rw [List.map_cons, List.flatMap_cons, String.intercalate_cons_of_ne_nil hm,
        String.intercalate_append_of_ne_nil ha hne, ih hr]

namespace Formula

private theorem areReadable_flatMap {fs : List (Formula NumberedClause)} (h : AreReadable fs) :
    (∀ f ∈ fs, f.conjuncts ≠ []) ∧ AreReadable (fs.flatMap conjuncts) := by
  induction fs with
  | nil => exact ⟨by simp, trivial⟩
  | cons f rest ih =>
    obtain ⟨hf, hc⟩ := areReadable_conjuncts h.1
    obtain ⟨hr, hs⟩ := ih h.2
    refine ⟨List.forall_mem_cons.mpr ⟨hf, hr⟩, ?_⟩
    rw [List.flatMap_cons]
    exact areReadable_append hc hs

private theorem readCondition?_conjuncts {fs : List (Formula NumberedClause)} (hne : fs ≠ [])
    (h : AreReadable fs) :
    ∃ r, readCondition? (" AND ".intercalate (fs.map (conjunct (fs.length > 1)))) = some r ∧
      ∀ v, r.eval v = fs.all (·.eval fun n ↦ v n.marks) := by
  cases fs with
  | nil => exact absurd rfl hne
  | cons f rest =>
    cases rest with
    | nil =>
      obtain ⟨r, hr, hv⟩ := readCondition?_text h.1
      refine ⟨r, ?_, fun v ↦ ?_⟩
      · simpa [conjunct] using hr
      · simp [hv]
    | cons f' rest =>
      -- Two conjuncts or more are written like the members of one conjunction.
      let fs := f :: f' :: rest
      obtain ⟨hc, hs⟩ := areReadable_flatMap h
      have hm : fs.flatMap conjuncts ≠ [] := by
        intro hn
        exact hc f List.mem_cons_self (List.flatMap_eq_nil_iff.mp hn f List.mem_cons_self)
      obtain ⟨r, hr, hv⟩ := readCondition?_text (f := .joined .and (fs.flatMap conjuncts)) ⟨hm, hs⟩
      refine ⟨r, ?_, fun v ↦ ?_⟩
      · have ht : " AND ".intercalate (fs.map (conjunct (fs.length > 1))) =
            text (.joined .and (fs.flatMap conjuncts)) := by
          have hl : decide (fs.length > 1) = true := by simp [fs]
          have hs : separator .and = " AND " := rfl
          rw [hl, text, memberTexts_eq_map, List.map_flatMap, hs, funext conjunct_true]
          exact Text.intercalate_flatMap " AND " fun g hg ↦ by simpa using hc g hg
        rw [ht]
        exact hr
      · rw [hv, eval, evalMembers_and, List.all_flatMap]
        simp only [all_conjuncts, fs]

end Formula

/-- Whether a column is read under a name and not as an expression, and is named by no connective.
-/
structure ColumnDefinition.IsPlain (c : ColumnDefinition) : Prop where
  unauthored : c.expression = none
  named : Mark.isConnective c.storageName.toList = false

instance (c : ColumnDefinition) : Decidable c.IsPlain :=
  decidable_of_iff (c.expression = none ∧ Mark.isConnective c.storageName.toList = false)
    ⟨fun h ↦ ⟨h.1, h.2⟩, fun h ↦ ⟨h.unauthored, h.named⟩⟩

/-- The reference to a plain column of an accepted template is written with plain names. -/
theorem ReportTemplate.isColumn_reference {t : ReportTemplate} (h : t.problems = [])
    {c : ColumnDefinition} (hc : c ∈ t.config.columns) (hp : c.IsPlain) :
    (t.reference c).sql.toList ≠ [] ∧ Mark.IsColumn (t.reference c).sql.toList := by
  obtain ⟨again, hproblems⟩ := column_problems h hc
  have hs : Identifier.isSafe c.storageName = true :=
    ColumnDefinition.isSafe_of_problems hproblems c.storageName
      (by simp [ColumnDefinition.names, hp.unauthored])
  unfold reference
  split
  · next he =>
    rw [hp.unauthored] at he
    cases he
  · next source he hsource =>
    obtain ⟨s, hf⟩ := ColumnDefinition.findSource?_of_problems hproblems he hsource
    have hm : s ∈ t.dataSources := List.mem_of_find?_eq_some hf
    have hq : Identifier.isSafe s.qualifier = true := by
      refine DataSource.isSafe_of_problems (source_problems h hm) s.qualifier ?_
      unfold DataSource.qualifier DataSource.names
      cases s.aliasName <;> simp
    have ht : (ColumnExpr.column (some s.qualifier) c.storageName).sql =
        s.qualifier ++ "." ++ c.storageName := String.append_empty
    rw [hf, Option.map_some, Option.getD_some, ht]
    exact Identifier.isColumn_qualified hq hs
  · have ht : (ColumnExpr.column none c.storageName).sql = c.storageName := String.append_empty
    rw [ht]
    exact Identifier.isColumn_of_isSafe hs hp.named

namespace FilterGroup

private theorem areReadable_remainders (parameters : Fields) (first : Nat) {gs : List FilterGroup}
    (h : ∀ g ∈ gs, ∀ c ∈ g.leaves, Text.IsAtom c.column) :
    Formula.AreReadable (remainders parameters first gs) := by
  induction gs generalizing first with
  | nil => exact trivial
  | cons g rest ih =>
    have hr := ih (first + (Clause.allValues (g.clauses parameters)).length)
      fun d hd ↦ h d (List.mem_cons_of_mem g hd)
    refine Formula.areReadable_append ?_ hr
    cases hf : g.remainder? parameters first with
    | none => exact trivial
    | some f =>
      have hn := FilterNode.areReadable_of_isAtom parameters first g.nodes (h g List.mem_cons_self)
      exact ⟨Formula.isReadable_join? hn hf, trivial⟩

private theorem remainders_eq_nil_iff (parameters : Fields) (first : Nat) (gs : List FilterGroup) :
    remainders parameters first gs = [] ↔
      ∀ g ∈ gs, ∀ c ∈ g.leaves, ∀ vs, ¬ c.Contributes parameters vs := by
  induction gs generalizing first with
  | nil => simp [remainders]
  | cons g rest ih =>
    rw [remainders, List.append_eq_nil_iff, Option.toList_eq_nil_iff, remainder?_eq_none_iff,
      clauses_eq_nil_iff, ih, List.forall_mem_cons]

/-- Conditions on rows that require what is left of filters: of all of them, each with its own
connective, and with the conditions that are dropped left out. -/
structure Conjoined (parameters : Fields) (gs : List FilterGroup) (conditions : List String) :
    Prop where
  omitted : conditions = [] ↔ ∀ g ∈ gs, ∀ c ∈ g.leaves, ∀ vs, ¬ c.Contributes parameters vs
  read : ∀ w ∈ conditions, conditions = [w] ∧ ∃ r, readCondition? w = some r ∧
    ∀ v, r.eval v = (remainders parameters 1 gs).all (·.eval fun n ↦ v n.marks)

end FilterGroup

/-- The filters of a planned statement whose columns are read as atoms are conjoined. -/
theorem StatementPlan.conjoined_statement (p : StatementPlan) (t : ReportTemplate)
    (parameters : Fields) (h : ∀ g ∈ p.rowFilters t, ∀ c ∈ g.leaves, Text.IsAtom c.column) :
    FilterGroup.Conjoined parameters (p.rowFilters t)
      (Token.conditions (p.statement t parameters).query.tokens) := by
  have hreadable : Formula.AreReadable (p.remainders t parameters) :=
    FilterGroup.areReadable_remainders parameters 1 h
  have hnil := FilterGroup.remainders_eq_nil_iff parameters 1 (p.rowFilters t)
  have hw := p.whereText_eq t parameters
  rw [conditions_statement]
  by_cases hr : p.remainders t parameters = []
  · have he : p.whereText t parameters = "" := by
      rw [hw, hr]
      rfl
    rw [he]
    exact ⟨iff_of_true rfl (hnil.mp hr), fun w hm ↦ absurd hm List.not_mem_nil⟩
  · obtain ⟨r, hread, hv⟩ := Formula.readCondition?_conjuncts hr hreadable
    rw [← hw] at hread
    have hne : p.whereText t parameters ≠ "" := by
      intro he
      rw [he] at hread
      cases hread
    rw [Text.unlessEmpty_of_ne hne]
    refine ⟨iff_of_false (List.cons_ne_nil _ _) fun hd ↦ hr (hnil.mpr hd), fun w hm ↦ ?_⟩
    rw [Option.toList_some, List.mem_singleton] at hm
    subst hm
    exact ⟨rfl, r, hread, hv⟩

end TabularReport

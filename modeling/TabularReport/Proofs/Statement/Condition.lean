import TabularReport.Proofs.Statement.Plan

/-!
# The conditions of a statement

What is left of the filters of rows and of the condition on groups is numbered through across them.
The statement requires what is left of each filter, and its parameters are the values of all clauses
in order.
-/

namespace TabularReport

/-- The connective of a formula; a single atom counts as one conjunct. -/
def Formula.logic {α : Type} : Formula α → Logic
  | .atom _ => .and
  | .joined logic _ => logic

/-- The text of a formula as a conjunct; beside others a disjunction is put in parentheses. -/
def Formula.conjunct (others : Bool) (f : Formula NumberedClause) : String :=
  if others && f.logic = .or then "(" ++ f.text ++ ")" else f.text

/-- The clauses that are left of filters, one filter after another. -/
def FilterGroup.clausesOf (parameters : Fields) (gs : List FilterGroup) : List Clause :=
  gs.flatMap (·.clauses parameters)

/-- What is left of filters, numbered through. -/
def FilterGroup.remainders (parameters : Fields) (first : Nat) :
    List FilterGroup → List (Formula NumberedClause)
  | [] => []
  | g :: rest =>
    (g.remainder? parameters first).toList ++
      FilterGroup.remainders parameters
        (first + (Clause.allValues (g.clauses parameters)).length) rest

/-- The clauses of the first filter come before those of the others. -/
theorem FilterGroup.clausesOf_cons (parameters : Fields) (g : FilterGroup)
    (rest : List FilterGroup) :
    clausesOf parameters (g :: rest) = g.clauses parameters ++ clausesOf parameters rest :=
  List.flatMap_cons

/-- The clauses of filters are what is left of their conditions. -/
theorem FilterGroup.clausesOf_eq (parameters : Fields) (gs : List FilterGroup) :
    clausesOf parameters gs = Condition.clauses parameters (gs.flatMap (·.leaves)) := by
  rw [Condition.clauses, List.filterMap_flatMap]
  rfl

/-- What is left of filters has their clauses, numbered through. -/
theorem FilterGroup.atoms_remainders (parameters : Fields) (first : Nat) (gs : List FilterGroup) :
    Formula.atomsOf (remainders parameters first gs) =
      NumberedClause.numberFrom first (clausesOf parameters gs) := by
  induction gs generalizing first with
  | nil => rfl
  | cons g rest ih =>
    rw [remainders, Formula.atomsOf_append, Formula.atomsOf_toList, g.atoms_remainder?, ih,
      clausesOf_cons, NumberedClause.numberFrom_append]

private theorem FilterGroup.logic_remainder? {g : FilterGroup} {parameters : Fields} {first : Nat}
    {f : Formula NumberedClause} (h : g.remainder? parameters first = some f) :
    f.logic = g.logic := by
  unfold remainder? Formula.join? at h
  split at h
  · cases h
  · cases h
    rfl

private theorem FilterGroup.isEmpty_compile (g : FilterGroup) (parameters : Fields) (first : Nat) :
    (g.compile parameters first).isEmpty = (g.remainder? parameters first).isNone := by
  rw [Bool.eq_iff_iff, Option.isNone_iff_eq_none, remainder?_eq_none_iff, Fragment.isEmpty,
    String.isEmpty_iff, compile_sql_eq_empty_iff]

/-- Compiling filters numbers them through, and those of which something is left are written as it.
-/
theorem compileFilters_eq (parameters : Fields) (first : Nat) (gs : List FilterGroup) :
    (((compileFilters parameters first gs).1.filter fun (_, f) => !f.isEmpty).map fun (logic, f) =>
        (logic, f.sql)) =
        (FilterGroup.remainders parameters first gs).map (fun f ↦ (f.logic, f.text)) ∧
      ((compileFilters parameters first gs).1.filter fun (_, f) => !f.isEmpty).flatMap
        (·.2.params) =
        Clause.allValues (FilterGroup.clausesOf parameters gs) ∧
      (compileFilters parameters first gs).2 =
        first + (Clause.allValues (FilterGroup.clausesOf parameters gs)).length := by
  induction gs generalizing first with
  | nil => exact ⟨rfl, rfl, rfl⟩
  | cons g rest ih =>
    have hg := g.compile_eq parameters first
    have he := g.isEmpty_compile parameters first
    obtain ⟨hs, hp, hn⟩ := ih (first + (Clause.allValues (g.clauses parameters)).length)
    have hnext : (g.compile parameters first).nextIndex =
        first + (Clause.allValues (g.clauses parameters)).length := by rw [hg]
    rw [compileFilters, FilterGroup.remainders, FilterGroup.clausesOf_cons, Clause.allValues_append,
      hnext]
    refine ⟨?_, ?_, ?_⟩
    · cases hr : g.remainder? parameters first with
      | none =>
        simp only [List.filter_cons, he, hr]
        exact hs
      | some f =>
        have hf := FilterGroup.logic_remainder? hr
        have ht : (g.compile parameters first).sql = f.text := by rw [hg, hr]; rfl
        simp only [List.filter_cons, he, hr, Option.isNone_some, Bool.not_false, if_true,
          List.map_cons, Option.toList_some, List.cons_append, List.nil_append, ht, hf, hs]
    · rw [← hp]
      cases hr : g.remainder? parameters first with
      | none =>
        simp only [List.filter_cons, he, hr, (g.remainder?_eq_none_iff parameters first).mp hr]
        rfl
      | some f =>
        have hv : (g.compile parameters first).params =
            Clause.allValues (g.clauses parameters) := by
          rw [hg]
        simp only [List.filter_cons, he, hr, Option.isNone_some, Bool.not_false, if_true,
          List.flatMap_cons, hv]
    · rw [hn, List.length_append, Nat.add_assoc]

/-- Texts of filters as conjuncts, each with the connective of its filter. -/
def conjoin (parts : List (Logic × String)) : String :=
  " AND ".intercalate (parts.map fun (logic, s) => conjunct (parts.length > 1) logic ⟨s, [], 0⟩)

namespace StatementPlan

variable (p : StatementPlan) (t : ReportTemplate) (parameters : Fields)

/-- What is left of the filters of rows. -/
def remainders : List (Formula NumberedClause) :=
  FilterGroup.remainders parameters 1 (p.rowFilters t)

/-- The clauses of the filters of rows. -/
def rowClauses : List Clause := FilterGroup.clausesOf parameters (p.rowFilters t)

/-- The clauses of the condition on groups. -/
def groupClauses : List Clause := FilterGroup.clausesOf parameters t.config.having.toList

/-- The index of the first placeholder of the condition on groups. -/
def groupFirst : Nat := 1 + (Clause.allValues (p.rowClauses t parameters)).length

/-- The condition on rows depends on the connectives and the texts of its parts. -/
theorem whereText_eq_conjoin :
    p.whereText t parameters =
      conjoin ((p.parts t parameters).map fun (logic, f) => (logic, f.sql)) := by
  rw [conjoin, List.map_map, List.length_map]
  rfl

/-- The condition on rows requires what is left of each filter. -/
theorem whereText_eq :
    p.whereText t parameters =
      " AND ".intercalate ((p.remainders t parameters).map
        (Formula.conjunct ((p.remainders t parameters).length > 1))) := by
  obtain ⟨hs, -, -⟩ := compileFilters_eq parameters 1 (p.rowFilters t)
  rw [whereText_eq_conjoin, parts, hs, conjoin, List.map_map, List.length_map]
  rfl

/-- The parameters of a statement are the values of its clauses in order. -/
theorem params_eq :
    p.params t parameters =
      Clause.allValues (p.rowClauses t parameters ++ groupClauses t parameters) := by
  obtain ⟨-, hp, -⟩ := compileFilters_eq parameters 1 (p.rowFilters t)
  rw [params, parts, hp, Clause.allValues_append, groupPart, groupClauses]
  cases t.config.having with
  | none => rfl
  | some g =>
    simp only [Option.map_some, Option.getD_some, g.compile_eq, Option.toList_some,
      FilterGroup.clausesOf, List.flatMap_singleton]
    rfl

end StatementPlan

end TabularReport

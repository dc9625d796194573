import TabularReport.Filter.Fragment

/-!
# What a condition contributes

The values that a condition binds are said here rule by rule, apart from the function that computes
them. A condition for which no rule applies is dropped.
-/

namespace TabularReport

/-- Whether an operator compares with one value that is bound as it is. -/
def Operator.isComparison : Operator → Bool
  | .equal | .notEqual | .greater | .greaterOrEqual | .less | .lessOrEqual => true
  | _ => false

/-- The values that an operator binds for a present value: the items of a list that has some, the
two bounds of a range, a pattern around a label, or the value itself. -/
inductive Operator.Binds : Operator → Json → List Json → Prop
  | items {op : Operator} {vs : List Json} :
      op = .isIn ∨ op = .notIn → vs ≠ [] → Binds op (.array vs) vs
  | bounds {v low high : Json} :
      v.field? "from" = some low → low.isNull = false →
      v.field? "to" = some high → high.isNull = false → Binds .between v [low, high]
  | pattern {op : Operator} {v : Json} :
      op = .like ∨ op = .notLike → Binds op v [.string ("%" ++ v.label ++ "%")]
  | value {op : Operator} {v : Json} : op.isComparison = true → Binds op v [v]

/-- The values that a condition binds: none for a test for null, otherwise those that its operator
binds for the value of the condition, which must be present. -/
inductive Condition.Contributes (parameters : Fields) (c : Condition) : List Json → Prop
  | nothing : c.operator.isNullary = true → Contributes parameters c []
  | values {v : Json} {vs : List Json} :
      c.value? parameters = some v → c.operator.Binds v vs → Contributes parameters c vs

/-- What a condition contributes does not depend on its column. -/
theorem Condition.contributes_column {c : Condition} {parameters : Fields} {column : String}
    {vs : List Json} :
    Contributes parameters { c with column } vs ↔ c.Contributes parameters vs := by
  constructor
  · rintro (hn | ⟨hv, hb⟩)
    · exact .nothing hn
    · exact .values hv hb
  · rintro (hn | ⟨hv, hb⟩)
    · exact .nothing hn
    · exact .values hv hb

/-- A value that is present is one that is not null. -/
theorem Json.bind_present?_eq_some_iff {o : Option Json} {v : Json} :
    o.bind Json.present? = some v ↔ o = some v ∧ v.isNull = false := by
  cases o with
  | none => simp
  | some w => cases h : w.isNull <;> simp [Json.present?, h] <;> grind

private theorem Operator.bind?_eq_some_iff {op : Operator} (h : op.isNullary = false) {v : Json}
    {vs : List Json} :
    op.bind? v = some vs ↔ op.Binds v vs := by
  constructor
  · intro hb
    cases op with
    | isNull => cases h
    | isNotNull => cases h
    | isIn | notIn =>
      cases v with
      | array items =>
        cases items with
        | nil => cases hb
        | cons a rest =>
          cases hb
          exact .items (by simp) (by simp)
      | _ => cases hb
    | between =>
      simp only [Operator.bind?] at hb
      split at hb
      · next low high hl hh =>
        cases hb
        obtain ⟨hf, hn⟩ := Json.bind_present?_eq_some_iff.mp hl
        obtain ⟨ht, hm⟩ := Json.bind_present?_eq_some_iff.mp hh
        exact .bounds hf hn ht hm
      · cases hb
    | like | notLike =>
      cases hb
      exact .pattern (by simp)
    | _ =>
      cases hb
      exact .value rfl
  · intro hb
    cases hb with
    | items ho hne =>
      obtain ⟨a, rest, rfl⟩ := List.exists_cons_of_ne_nil hne
      rcases ho with rfl | rfl <;> rfl
    | bounds hf hn ht hm =>
      simp only [Operator.bind?, Json.bind_present?_eq_some_iff.mpr ⟨hf, hn⟩,
        Json.bind_present?_eq_some_iff.mpr ⟨ht, hm⟩]
    | pattern ho => rcases ho with rfl | rfl <;> rfl
    | value hc => cases op <;> first | rfl | cases hc

private theorem Operator.Binds.isNullary_eq_false {op : Operator} {v : Json} {vs : List Json}
    (h : op.Binds v vs) : op.isNullary = false := by
  cases h with
  | items ho => rcases ho with rfl | rfl <;> rfl
  | bounds => rfl
  | pattern ho => rcases ho with rfl | rfl <;> rfl
  | value hc => cases op <;> first | rfl | cases hc

/-- A condition becomes a clause exactly when it contributes values, and the clause holds them. -/
theorem Condition.clause?_eq_some_iff {c : Condition} {parameters : Fields} {k : Clause} :
    c.clause? parameters = some k ↔
      ∃ vs, c.Contributes parameters vs ∧ k = ⟨c.column, c.operator, vs⟩ := by
  unfold Condition.clause?
  split
  · next hn =>
    constructor
    · intro h
      exact ⟨[], .nothing hn, (Option.some.inj h).symm⟩
    · rintro ⟨vs, hc, rfl⟩
      cases hc with
      | nothing => rfl
      | values _ hb => rw [hb.isNullary_eq_false] at hn; cases hn
  · next hn =>
    have hf : c.operator.isNullary = false := Bool.eq_false_iff.mpr hn
    constructor
    · intro h
      obtain ⟨vs, hvs, rfl⟩ := Option.map_eq_some_iff.mp h
      obtain ⟨v, hv, hb⟩ := Option.bind_eq_some_iff.mp hvs
      exact ⟨vs, .values hv ((Operator.bind?_eq_some_iff hf).mp hb), rfl⟩
    · rintro ⟨vs, hc, rfl⟩
      cases hc with
      | nothing ht => exact absurd ht hn
      | values hv hb =>
        rw [hv, Option.bind_some, (Operator.bind?_eq_some_iff hf).mpr hb, Option.map_some]

/-- A condition is dropped exactly when it contributes nothing at all. -/
theorem Condition.clause?_eq_none_iff {c : Condition} {parameters : Fields} :
    c.clause? parameters = none ↔ ∀ vs, ¬ c.Contributes parameters vs := by
  rw [Option.eq_none_iff_forall_ne_some]
  constructor
  · intro h vs hc
    exact h _ (clause?_eq_some_iff.mpr ⟨vs, hc, rfl⟩)
  · rintro h k hk
    obtain ⟨vs, hc, -⟩ := clause?_eq_some_iff.mp hk
    exact h vs hc

/-- Whether a clause holds as many values as its operator writes placeholders. -/
def Clause.Fits (k : Clause) : Prop :=
  match k.operator with
  | .isNull | .isNotNull => k.values = []
  | .isIn | .notIn => k.values ≠ []
  | .between => k.values.length = 2
  | _ => k.values.length = 1

private theorem Operator.Binds.fits {op : Operator} {v : Json} {vs : List Json} (h : op.Binds v vs)
    (column : String) : Clause.Fits ⟨column, op, vs⟩ := by
  cases h with
  | items ho hne => rcases ho with rfl | rfl <;> exact hne
  | bounds => rfl
  | pattern ho => rcases ho with rfl | rfl <;> rfl
  | value hc => cases op <;> first | rfl | cases hc

/-- The clause of a condition has the condition's column and fits its operator. -/
theorem Condition.clause?_fits {c : Condition} {parameters : Fields} {k : Clause}
    (h : c.clause? parameters = some k) : k.column = c.column ∧ k.Fits := by
  obtain ⟨vs, hc, rfl⟩ := clause?_eq_some_iff.mp h
  refine ⟨rfl, ?_⟩
  cases hc with
  | nothing hn => cases ho : c.operator <;> simp_all [Operator.isNullary, Clause.Fits]
  | values _ hb => exact hb.fits c.column

/-- The clauses that are left of a list of conditions. -/
def Condition.clauses (parameters : Fields) (leaves : List Condition) : List Clause :=
  leaves.filterMap (·.clause? parameters)

/-- A clause of a list of conditions fits and has the column of one of them. -/
theorem Condition.mem_clauses {parameters : Fields} {leaves : List Condition} {k : Clause}
    (h : k ∈ clauses parameters leaves) : k.Fits ∧ ∃ c ∈ leaves, c.column = k.column := by
  obtain ⟨c, hc, hk⟩ := List.mem_filterMap.mp h
  obtain ⟨hcol, hf⟩ := clause?_fits hk
  exact ⟨hf, c, hc, hcol.symm⟩

/-- The values of clauses one after another. -/
def Clause.allValues (clauses : List Clause) : List Json := clauses.flatMap (·.values)

/-- A list of conditions and what is left of it: conditions that contribute become clauses with
their values, all others are left out. -/
inductive Condition.Survive (parameters : Fields) : List Condition → List Clause → Prop
  | nil : Survive parameters [] []
  | dropped {c : Condition} {rest : List Condition} {ks : List Clause} :
      (∀ vs, ¬ c.Contributes parameters vs) → Survive parameters rest ks →
      Survive parameters (c :: rest) ks
  | kept {c : Condition} {vs : List Json} {rest : List Condition} {ks : List Clause} :
      c.Contributes parameters vs → Survive parameters rest ks →
      Survive parameters (c :: rest) (⟨c.column, c.operator, vs⟩ :: ks)

/-- The clauses of a list of conditions are what is left of it. -/
theorem Condition.survive_clauses (parameters : Fields) (leaves : List Condition) :
    Survive parameters leaves (clauses parameters leaves) := by
  induction leaves with
  | nil => exact .nil
  | cons c rest ih =>
    cases h : c.clause? parameters with
    | none =>
      simp only [clauses, List.filterMap_cons, h]
      exact .dropped (clause?_eq_none_iff.mp h) ih
    | some k =>
      obtain ⟨vs, hc, rfl⟩ := clause?_eq_some_iff.mp h
      simp only [clauses, List.filterMap_cons, h]
      exact .kept hc ih

end TabularReport

import TabularReport.Proofs.Filter.Remainder

/-!
# Null among the values of a filter

A condition whose value is missing or null is dropped, and so is a range without one of its bounds,
so that neither is compared with null. The items of a list are bound as they are. The nulls that a
filter binds are therefore those among the items of the lists that it compares with.
-/

namespace TabularReport

/-- Whether a condition compares with a list that has a null among its items. -/
def Condition.ListsNull (parameters : Fields) (c : Condition) : Prop :=
  (c.operator = .isIn ∨ c.operator = .notIn) ∧
    ∃ items, c.value? parameters = some (.array items) ∧ .null ∈ items

private theorem Condition.isNull_of_value? {c : Condition} {parameters : Fields} {v : Json}
    (h : c.value? parameters = some v) : v.isNull = false :=
  (Json.bind_present?_eq_some_iff.mp h).2

private theorem Operator.Binds.null_mem_iff {op : Operator} {v : Json} {vs : List Json}
    (h : op.Binds v vs) (hv : v.isNull = false) :
    .null ∈ vs ↔ (op = .isIn ∨ op = .notIn) ∧ ∃ items, v = .array items ∧ .null ∈ items := by
  have hne {w : Json} (hw : w.isNull = false) : Json.null ≠ w := by
    rintro rfl
    cases hw
  cases h with
  | items ho hnonempty => simp [ho]
  | bounds hfrom hlow hto hhigh => simp [hne hlow, hne hhigh]
  | pattern ho => rcases ho with rfl | rfl <;> simp
  | value hc => cases op <;> simp_all [Operator.isComparison]

private theorem Condition.Contributes.null_mem_iff {c : Condition} {parameters : Fields}
    {vs : List Json} (h : c.Contributes parameters vs) : .null ∈ vs ↔ c.ListsNull parameters := by
  cases h with
  | nothing hn =>
    have ho : ¬ (c.operator = .isIn ∨ c.operator = .notIn) := by
      rintro (ho | ho) <;> rw [ho] at hn <;> cases hn
    simp [ListsNull, ho]
  | values hv hb =>
    rw [hb.null_mem_iff (isNull_of_value? hv), ListsNull, hv]
    simp only [Option.some.injEq]

private theorem Condition.ListsNull.exists_contributes {c : Condition} {parameters : Fields}
    (h : c.ListsNull parameters) : ∃ vs, c.Contributes parameters vs ∧ .null ∈ vs := by
  obtain ⟨ho, items, hv, hnull⟩ := h
  exact ⟨items, .values hv (.items ho (List.ne_nil_of_mem hnull)), hnull⟩

private theorem FilterGroup.mem_params_compile_iff {g : FilterGroup} {parameters : Fields}
    {first : Nat} {v : Json} :
    v ∈ (g.compile parameters first).params ↔
      ∃ c ∈ g.leaves, ∃ vs, c.Contributes parameters vs ∧ v ∈ vs := by
  rw [g.compile_eq]
  simp only [Clause.allValues, List.mem_flatMap, clauses, Condition.clauses, List.mem_filterMap,
    Condition.clause?_eq_some_iff]
  constructor
  · rintro ⟨k, ⟨c, hc, vs, hvs, rfl⟩, hv⟩
    exact ⟨c, hc, vs, hvs, hv⟩
  · rintro ⟨c, hc, vs, hvs, hv⟩
    exact ⟨_, ⟨c, hc, vs, hvs, rfl⟩, hv⟩

/-- A filter binds a null exactly when one of its conditions compares with a list that has a null
among its items: no other condition does, whatever its operator and wherever its value comes
from. -/
theorem FilterGroup.null_mem_params_compile (g : FilterGroup) (parameters : Fields) (first : Nat) :
    .null ∈ (g.compile parameters first).params ↔
      ∃ c ∈ g.leaves, c.ListsNull parameters := by
  rw [mem_params_compile_iff]
  constructor
  · rintro ⟨c, hc, vs, hvs, hnull⟩
    exact ⟨c, hc, hvs.null_mem_iff.mp hnull⟩
  · rintro ⟨c, hc, hlists⟩
    exact ⟨c, hc, hlists.exists_contributes⟩

/-- Orders that are in none of the given regions, of which one is not known. -/
def outsideRegions : FilterGroup :=
  { nodes := [.leaf { column := "region", operator := .notIn
                      value := some (.array [.string "north", .null]) }] }

/-- The null in a list of regions is bound, and the column is compared with it. -/
theorem FilterGroup.comparesWithNull_outsideRegions :
    ¬ (∀ (g : FilterGroup) (parameters : Fields) (first : Nat),
        .null ∉ (g.compile parameters first).params) ∧
      (outsideRegions.compile [] 1).sql = "region NOT IN ($1, $2)" ∧
      (outsideRegions.compile [] 1).params = [.string "north", .null] := by
  have hparams : (outsideRegions.compile [] 1).params = [.string "north", .null] := rfl
  refine ⟨fun h ↦ h outsideRegions [] 1 ?_, by decide +kernel, hparams⟩
  rw [hparams]
  exact List.mem_cons_of_mem _ List.mem_cons_self

end TabularReport

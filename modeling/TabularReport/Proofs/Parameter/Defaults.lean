import TabularReport.Parameter.Validation
import TabularReport.Proofs.Json.Fields

/-!
# Values that defaults fill in

Under the name of a parameter stands its effective value, and under every other name what was given.
The effective values do not depend on one another, so the declarations may come in any order as long
as their names differ.
-/

namespace TabularReport.ParameterDefinition

/-- The value of a parameter for what is given under its name: the default when nothing is. -/
def effective (p : ParameterDefinition) (given : Option Json) : Option Json :=
  if Json.absent given then p.defaultValue.or given else given

variable {definitions others : List ParameterDefinition} {values : Fields}

private theorem get?_fillDefault (p : ParameterDefinition) (values : Fields) (key : String) :
    Fields.get? (p.fillDefault values) key =
      if key = p.name then p.effective (Fields.get? values key) else Fields.get? values key := by
  rw [fillDefault, effective]
  by_cases hk : key = p.name
  · subst hk
    rw [if_pos rfl]
    split
    · cases p.defaultValue with
      | none => rfl
      | some v => rw [Fields.get?_insert, if_pos rfl, Option.some_or]
    · rfl
  · rw [if_neg hk]
    split
    · cases p.defaultValue with
      | none => rfl
      | some v => rw [Fields.get?_insert, if_neg (Ne.symm hk)]
    · rfl

private theorem isSorted_fillDefault (p : ParameterDefinition) (h : Fields.IsSorted values) :
    Fields.IsSorted (p.fillDefault values) := by
  unfold fillDefault
  split
  · split
    · exact Fields.isSorted_insert h _ _
    · exact h
  · exact h

/-- Filling in defaults leaves the values sorted. -/
theorem isSorted_fillDefaults (definitions : List ParameterDefinition)
    (h : Fields.IsSorted values) : Fields.IsSorted (fillDefaults definitions values) := by
  induction definitions generalizing values with
  | nil => exact h
  | cons p rest ih => exact ih (isSorted_fillDefault p h)

/-- A name that no parameter has keeps what was given. -/
theorem get?_fillDefaults_of_ne {key : String} (h : ∀ p ∈ definitions, p.name ≠ key) :
    Fields.get? (fillDefaults definitions values) key = Fields.get? values key := by
  induction definitions generalizing values with
  | nil => rfl
  | cons p rest ih =>
    rw [List.forall_mem_cons] at h
    exact (ih h.2).trans ((get?_fillDefault p values key).trans (if_neg h.1.symm))

/-- Under the name of a parameter stands its effective value. -/
theorem get?_fillDefaults_of_mem (hn : (definitions.map (·.name)).Nodup)
    {p : ParameterDefinition} (hp : p ∈ definitions) :
    Fields.get? (fillDefaults definitions values) p.name =
      p.effective (Fields.get? values p.name) := by
  induction definitions generalizing values with
  | nil => cases hp
  | cons q rest ih =>
    rw [List.map_cons, List.nodup_cons] at hn
    have hfirst := get?_fillDefault q values p.name
    rcases List.mem_cons.mp hp with rfl | hrest
    · rw [if_pos rfl] at hfirst
      have hlater : ∀ q ∈ rest, q.name ≠ p.name := fun q hq he ↦
        hn.1 (List.mem_map.mpr ⟨q, hq, he⟩)
      exact (get?_fillDefaults_of_ne hlater).trans hfirst
    · have hne : p.name ≠ q.name := fun he ↦ hn.1 (List.mem_map.mpr ⟨p, hrest, he⟩)
      rw [if_neg hne] at hfirst
      exact (ih hn.2 hrest).trans (congrArg p.effective hfirst)

/-- Defaults may be filled in in any order when the names of the parameters differ. -/
theorem fillDefaults_perm (h : definitions.Perm others) (hn : (definitions.map (·.name)).Nodup)
    (hs : Fields.IsSorted values) :
    fillDefaults definitions values = fillDefaults others values := by
  -- Sorted values are determined by what stands under each key.
  refine (isSorted_fillDefaults definitions hs).eq_of_get? (isSorted_fillDefaults others hs)
    fun key ↦ ?_
  by_cases hk : ∃ p ∈ definitions, p.name = key
  · obtain ⟨p, hp, rfl⟩ := hk
    have hnames : (others.map (·.name)).Nodup := (h.map _).nodup_iff.mp hn
    rw [get?_fillDefaults_of_mem hn hp, get?_fillDefaults_of_mem hnames (h.mem_iff.mp hp)]
  · simp only [not_exists, not_and] at hk
    rw [get?_fillDefaults_of_ne hk, get?_fillDefaults_of_ne fun p hp ↦ hk p (h.mem_iff.mpr hp)]

private theorem effective_effective (p : ParameterDefinition) (given : Option Json) :
    p.effective (p.effective given) = p.effective given := by
  unfold effective
  by_cases ha : Json.absent given = true
  · rw [if_pos ha]
    cases p.defaultValue with
    | none => rw [Option.none_or, if_pos ha, Option.none_or]
    | some value => rw [Option.some_or, Option.some_or, ite_self]
  · rw [if_neg ha, if_neg ha]

/-- Defaults that are filled in a second time change nothing. -/
theorem fillDefaults_fillDefaults (hn : (definitions.map (·.name)).Nodup)
    (hs : Fields.IsSorted values) :
    fillDefaults definitions (fillDefaults definitions values) =
      fillDefaults definitions values := by
  have hfilled := isSorted_fillDefaults definitions hs
  refine (isSorted_fillDefaults definitions hfilled).eq_of_get? hfilled fun key ↦ ?_
  by_cases hk : ∃ p ∈ definitions, p.name = key
  · obtain ⟨p, hp, rfl⟩ := hk
    rw [get?_fillDefaults_of_mem hn hp, get?_fillDefaults_of_mem hn hp, effective_effective]
  · simp only [not_exists, not_and] at hk
    exact get?_fillDefaults_of_ne hk

/-- Declarations are compared by position: this is transitive. -/
theorem position_trans (a b c : ParameterDefinition) (hab : decide (a.position ≤ b.position) = true)
    (hbc : decide (b.position ≤ c.position) = true) : decide (a.position ≤ c.position) = true := by
  simp only [decide_eq_true_eq] at hab hbc ⊢
  exact Nat.le_trans hab hbc

/-- Declarations are compared by position: any two of them can be. -/
theorem position_total (a b : ParameterDefinition) :
    (decide (a.position ≤ b.position) || decide (b.position ≤ a.position)) = true := by
  simpa using Nat.le_total a.position b.position

/-- Declarations in their order stand by position. -/
theorem pairwise_inOrder (definitions : List ParameterDefinition) :
    (inOrder definitions).Pairwise fun a b ↦ decide (a.position ≤ b.position) = true :=
  List.pairwise_mergeSort position_trans position_total definitions

/-- Declarations that stand in order stay as they are. -/
theorem inOrder_inOrder (definitions : List ParameterDefinition) :
    inOrder (inOrder definitions) = inOrder definitions :=
  List.mergeSort_of_pairwise (pairwise_inOrder definitions)

end TabularReport.ParameterDefinition

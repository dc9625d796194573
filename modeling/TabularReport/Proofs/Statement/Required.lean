import TabularReport.Proofs.Parameter.Violation
import TabularReport.Proofs.Statement.Emission

/-!
# Conditions on required parameters

Values that are accepted hold one for each required parameter, in the shape that the kind of the
parameter asks for. A condition on a required parameter is therefore not dropped where its operator
takes values of this shape: the check of the values and the compiler of the filters have the same
notion of a value that is there.
-/

namespace TabularReport

namespace ParameterDefinition

variable {definitions : List ParameterDefinition} {values : Fields} {p : ParameterDefinition}
  {v : Json}

private theorem exists_value_of_check (h : check definitions values = .ok ()) (hp : p ∈ definitions)
    (hr : p.required = true) :
    ∃ v, Fields.get? values p.name = some v ∧ v.isNull = false ∧ p.problem? v = none := by
  have hnone := check_eq_ok_iff_violation?.mp h p hp
  unfold violation? at hnone
  split at hnone
  · next v hv =>
    obtain ⟨hg, hn⟩ := Json.bind_present?_eq_some_iff.mp hv
    exact ⟨v, hg, hn, Option.map_eq_none_iff.mp hnone⟩
  · rw [if_pos hr] at hnone
    cases hnone

private theorem exists_of_dateBoundProblem? {range : Fields} {bound : String}
    (h : dateBoundProblem? range bound = none) :
    ∃ w, Fields.get? range bound = some w ∧ w.isNull = false := by
  unfold dateBoundProblem? at h
  split at h
  · next w hw => exact ⟨w, Json.bind_present?_eq_some_iff.mp hw⟩
  · cases h

private theorem exists_bounds_of_problem? (hk : p.kind = .dateRange) (h : p.problem? v = none) :
    ∃ low high, v.field? "from" = some low ∧ low.isNull = false ∧
      v.field? "to" = some high ∧ high.isNull = false := by
  cases v with
  | object range =>
    simp only [problem?, hk] at h
    obtain ⟨hfrom, hto⟩ := Option.or_eq_none_iff.mp h
    obtain ⟨low, hlow, hl⟩ := exists_of_dateBoundProblem? hfrom
    obtain ⟨high, hhigh, hh⟩ := exists_of_dateBoundProblem? hto
    exact ⟨low, high, hlow, hl, hhigh, hh⟩
  | _ => simp [problem?, hk] at h

private theorem exists_items_of_problem? (hk : p.kind = .multiSelect) (h : p.problem? v = none) :
    ∃ items, v = .array items := by
  cases v with
  | array items => exact ⟨items, rfl⟩
  | _ => simp [problem?, hk] at h

end ParameterDefinition

private theorem Condition.value?_of_parameterRef {c : Condition} {values : Fields} {name : String}
    {v : Json} (href : c.parameterRef = some name) (hg : Fields.get? values name = some v)
    (hn : v.isNull = false) : c.value? values = some v := by
  rw [value?, href]
  exact Json.bind_present?_eq_some_iff.mpr ⟨hg, hn⟩

namespace ReportTemplate

/-- How a condition on a parameter with a value is retained: a comparison and a pattern whatever
the kind of the parameter is, a range by the two bounds of the dates, and a list by each item of the
selection. Only an empty selection drops it. -/
structure Retains (t : ReportTemplate) (g : FilterGroup) (values : Fields)
    (earlier : List Condition) (c : Condition) (later : List Condition) (p : ParameterDefinition)
    (v : Json) : Prop where
  comparison : c.operator.isComparison = true → t.Emits g values earlier c later [v]
  pattern : c.operator = .like ∨ c.operator = .notLike →
    t.Emits g values earlier c later [.string ("%" ++ v.label ++ "%")]
  range : c.operator = .between → p.kind = .dateRange →
    ∃ low high, v.field? "from" = some low ∧ v.field? "to" = some high ∧
      t.Emits g values earlier c later [low, high]
  selection : c.operator = .isIn ∨ c.operator = .notIn → p.kind = .multiSelect →
    ∃ items, v = .array items ∧
      (items ≠ [] → t.Emits g values earlier c later items) ∧
      (items = [] → c.clause? values = none)

variable {t : ReportTemplate} {g : FilterGroup} {values : Fields} {earlier later : List Condition}
  {c : Condition} {p : ParameterDefinition}

/-- A condition of an accepted template on a required parameter is retained with all values that
are accepted for the parameters of the template, wherever it stands in its filter. -/
theorem retains_of_required (haccepted : t.problems = [])
    (hvalues : ParameterDefinition.check t.parameters values = .ok ())
    (hg : g ∈ t.config.filters.toList ++ t.config.having.toList)
    (hleaves : g.leaves = earlier ++ c :: later) (hp : p ∈ t.parameters)
    (hr : p.required = true) (href : c.parameterRef = some p.name) :
    ∃ v, Fields.get? values p.name = some v ∧ v.isNull = false ∧
      t.Retains g values earlier c later p v := by
  obtain ⟨v, hget, hnull, hproblem⟩ := ParameterDefinition.exists_value_of_check hvalues hp hr
  have hv : c.value? values = some v := Condition.value?_of_parameterRef href hget hnull
  have hemits {vs : List Json} (hb : c.operator.Binds v vs) : t.Emits g values earlier c later vs :=
    emits_of_contributes haccepted hg hleaves (.values hv hb)
  refine ⟨v, hget, hnull, ?_⟩
  constructor
  case comparison => exact fun ho ↦ hemits (.value ho)
  case pattern => exact fun ho ↦ hemits (.pattern ho)
  case range =>
    intro ho hk
    obtain ⟨low, high, hfrom, hlow, hto, hhigh⟩ :=
      ParameterDefinition.exists_bounds_of_problem? hk hproblem
    exact ⟨low, high, hfrom, hto, hemits (ho ▸ .bounds hfrom hlow hto hhigh)⟩
  case selection =>
    intro ho hk
    obtain ⟨items, rfl⟩ := ParameterDefinition.exists_items_of_problem? hk hproblem
    refine ⟨items, rfl, fun hne ↦ hemits (.items ho hne), ?_⟩
    rintro rfl
    refine Condition.clause?_eq_none_iff.mpr ?_
    rintro vs (hnullary | ⟨hv', hb⟩)
    · rcases ho with ho | ho <;> rw [ho] at hnullary <;> cases hnullary
    · cases hv.symm.trans hv'
      rcases ho with ho | ho <;> rw [ho] at hb <;> cases hb <;> contradiction

end ReportTemplate

/-- A condition on the name of a guest. -/
def ofGuest : Condition := { column := "guest", operator := .like, parameterRef := some "guest" }

/-- A condition on the days of a stay. -/
def withinDays : Condition :=
  { column := "arrival", operator := .between, parameterRef := some "days" }

/-- A condition on the room of a stay. -/
def inRooms : Condition := { column := "room", operator := .isIn, parameterRef := some "rooms" }

/-- The stays of a guest, those of some days and those in some rooms. -/
def requestedStays : FilterGroup :=
  { nodes := [.leaf ofGuest, .group .or [.leaf withinDays, .leaf inRooms]] }

/-- A report on stays whose parameters are all required. -/
def staysReport : ReportTemplate :=
  { id := "stays"
    name := "Stays"
    dataSources := [.table "stays"]
    config :=
      { columns := [{ name := "room" }]
        filters := some requestedStays
        groupBy := ["room"]
        having := some
          { nodes :=
              [.leaf { column := "count(*)", operator := .greaterOrEqual
                       parameterRef := some "least" }] } }
    parameters :=
      [{ name := "guest", kind := .text, required := true },
        { name := "days", kind := .dateRange, required := true },
        { name := "rooms", kind := .multiSelect, required := true },
        { name := "least", kind := .number, required := true }] }

/-- The parameters of a run of the report on stays, without a room. -/
def staysValues : Fields :=
  [("days", .object [("from", .string "2024-05-01"), ("to", .string "2024-05-08")]),
    ("guest", .string "O'Hara"), ("least", .ofNat 2), ("rooms", .array [])]

/-- The days of the report on stays are emitted although no room is given beside them. -/
theorem emits_staysReport :
    staysReport.Emits requestedStays staysValues [ofGuest] withinDays [inRooms]
      [.string "2024-05-01", .string "2024-05-08"] := by
  have hvalues : ParameterDefinition.check staysReport.parameters staysValues = .ok () :=
    ParameterDefinition.check_eq_ok_iff_violation?.mpr (by decide +kernel)
  have hleaves : requestedStays.leaves = [ofGuest] ++ withinDays :: [inRooms] := rfl
  obtain ⟨v, hv, -, hretains⟩ := ReportTemplate.retains_of_required (t := staysReport)
    (p := { name := "days", kind := .dateRange, required := true }) (by decide +kernel) hvalues
    List.mem_cons_self hleaves (by simp [staysReport]) rfl rfl
  cases hv
  obtain ⟨low, high, hfrom, hto, hemits⟩ := hretains.range rfl rfl
  cases hfrom
  cases hto
  exact hemits

end TabularReport

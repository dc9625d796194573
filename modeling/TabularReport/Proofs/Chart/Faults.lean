import TabularReport.Proofs.Decimal.FloatOrder
import TabularReport.Proofs.Document.Preservation

/-!
# Rows that cannot be drawn

Whether rows can be drawn depends on the type of the chart, on the fields that play its roles and on
the bounds of a gauge, and not on the rows. The value of a gauge lies within its bounds.
-/

namespace TabularReport

variable {chartType : ChartType} {m : DataMapping} {config : ChartConfig} {rows : List Fields}
  {e : MappingError}

/-- The chart types that cannot be drawn. -/
def unsupportedTypes : List ChartType := [.bubble, .heatmap, .treemap, .sankey, .wordcloud]

/-- The roles that a chart needs, in the order in which they are asked for. -/
def ChartType.roles : ChartType → List ChartRole
  | .pie | .donut | .polar | .funnel => [.labels, .values]
  | .bar | .line | .area | .radar | .scatter => [.x, .y]
  | .table => [.columns]
  | .card | .gauge => [.value]
  | .bubble | .heatmap | .treemap | .sankey | .wordcloud => []

namespace DataMapping

/-- Whether a role is played by a field. An empty list of fields plays none. -/
def fills (m : DataMapping) : ChartRole → Bool
  | .labels => m.labels.isSome
  | .values => m.values.isSome
  | .x => m.x.isSome
  | .y => m.y.any fun fields ↦ !fields.fields.isEmpty
  | .columns => !m.columns.isEmpty
  | .value => m.value.isSome

/-- Whether an error names the first of some roles that no field plays. -/
def Lacks (m : DataMapping) (chartType : ChartType) (roles : List ChartRole) (e : MappingError) :
    Prop :=
  ∃ role, roles.find? (fun role ↦ !m.fills role) = some role ∧ e = .missingRole chartType role

end DataMapping

/-- The errors of a chart: what is wrong with its type, its roles or the bounds of a gauge. -/
inductive Faults (chartType : ChartType) (m : DataMapping) (config : ChartConfig) :
    MappingError → Prop
  | unsupported (h : chartType ∈ unsupportedTypes) :
      Faults chartType m config (.unsupported chartType)
  | missingRole {role : ChartRole}
      (h : chartType.roles.find? (fun role ↦ !m.fills role) = some role) :
      Faults chartType m config (.missingRole chartType role)
  | missingGaugeBounds (hc : chartType = .gauge) (hrole : m.fills .value = true)
      (h : config.min = none ∨ config.max = none) : Faults chartType m config .missingGaugeBounds
  | invertedGaugeBounds {low high : Float} (hc : chartType = .gauge)
      (hrole : m.fills .value = true) (hlow : config.min = some low)
      (hhigh : config.max = some high) (h : low > high) :
      Faults chartType m config (.invertedGaugeBounds low high)

namespace DataMapping

private theorem categorical_eq_error_iff :
    m.categorical chartType config rows = .error e ↔ m.Lacks chartType [.labels, .values] e := by
  unfold categorical Lacks
  cases hlabels : m.labels <;> cases hvalues : m.values <;>
    simp [require, fills, hlabels, hvalues, bind, Except.bind, pure, Except.pure, eq_comm]

private theorem axes_fields_eq_error_iff {α : Type} (draw : String → List String → α) :
    (do
      let x ← require chartType .x m.x
      let fields ← m.axisFields chartType
      return draw x fields) = .error e ↔ m.Lacks chartType [.x, .y] e := by
  unfold axisFields Lacks
  cases hx : m.x with
  | none => simp [require, fills, hx, bind, Except.bind, eq_comm]
  | some x =>
    cases hy : m.y with
    | none => simp [require, fills, hx, hy, bind, Except.bind, eq_comm]
    | some fields =>
      cases hf : fields.fields <;>
        simp [require, fills, hx, hy, hf, bind, Except.bind, pure, Except.pure, eq_comm]

private theorem axes_eq_error_iff :
    m.axes chartType config rows = .error e ↔ m.Lacks chartType [.x, .y] e :=
  axes_fields_eq_error_iff _

private theorem scatter_eq_error_iff :
    m.scatter chartType rows = .error e ↔ m.Lacks chartType [.x, .y] e :=
  axes_fields_eq_error_iff _

private theorem table_eq_error_iff :
    m.table chartType rows = .error e ↔ m.Lacks chartType [.columns] e := by
  unfold table Lacks
  split
  · next h => simp [fills, h, eq_comm]
  · next h => simp [fills, h]

private theorem card_eq_error_iff :
    m.card chartType config rows = .error e ↔ m.Lacks chartType [.value] e := by
  unfold card Lacks
  cases hvalue : m.value <;>
    simp [require, fills, hvalue, bind, Except.bind, pure, Except.pure, eq_comm]

private theorem gauge_of_value {field : String} (h : m.value = some field) (rows : List Fields) :
    m.gauge chartType config rows =
      match config.min, config.max with
      | some low, some high =>
        if low > high then .error (.invertedGaugeBounds low high)
        else
          let value := (rows.head?.bind fun row ↦ cellFloat? row field).getD low
          .ok (.gauge (clamp low high value) low high)
      | _, _ => .error .missingGaugeBounds := by
  rw [gauge, h]
  rfl

private theorem faults_gauge_of_missing (h : m.value = none) :
    Faults .gauge m config e ↔ e = .missingRole .gauge .value := by
  have hfills : m.fills .value = false := by rw [fills, h]; rfl
  have hfind : ChartType.gauge.roles.find? (fun role ↦ !m.fills role) = some .value := by
    rw [ChartType.roles, List.find?_cons, hfills]
    rfl
  constructor
  · intro hfault
    cases hfault with
    | unsupported h => exact absurd h (by decide)
    | missingRole h =>
      rw [hfind] at h
      cases h
      rfl
    | missingGaugeBounds _ hrole | invertedGaugeBounds _ hrole =>
      exact absurd hrole (by rw [hfills]; decide)
  · rintro rfl
    exact .missingRole hfind

private theorem faults_gauge_of_value {field : String} (h : m.value = some field) :
    Faults .gauge m config e ↔
      (config.min = none ∨ config.max = none) ∧ e = .missingGaugeBounds ∨
        ∃ low high, config.min = some low ∧ config.max = some high ∧ low > high ∧
          e = .invertedGaugeBounds low high := by
  have hfills : m.fills .value = true := by rw [fills, h]; rfl
  have hfind : ChartType.gauge.roles.find? (fun role ↦ !m.fills role) = none := by
    rw [ChartType.roles, List.find?_cons, hfills]
    rfl
  constructor
  · intro hfault
    cases hfault with
    | unsupported h => exact absurd h (by decide)
    | missingRole h =>
      rw [hfind] at h
      cases h
    | missingGaugeBounds _ _ hmissing => exact .inl ⟨hmissing, rfl⟩
    | invertedGaugeBounds _ _ hlow hhigh hinverted =>
      exact .inr ⟨_, _, hlow, hhigh, hinverted, rfl⟩
  · rintro (⟨hmissing, rfl⟩ | ⟨low, high, hlow, hhigh, hinverted, rfl⟩)
    · exact .missingGaugeBounds rfl hfills hmissing
    · exact .invertedGaugeBounds rfl hfills hlow hhigh hinverted

private theorem gauge_eq_error_iff :
    m.gauge .gauge config rows = .error e ↔ Faults .gauge m config e := by
  cases hvalue : m.value with
  | none =>
    rw [faults_gauge_of_missing hvalue, gauge, hvalue]
    simp [require, bind, Except.bind, eq_comm]
  | some field =>
    rw [faults_gauge_of_value hvalue, gauge_of_value hvalue]
    cases hlow : config.min with
    | none => simp [eq_comm]
    | some low =>
      cases hhigh : config.max with
      | none => simp [eq_comm]
      | some high =>
        dsimp only
        split
        · next hinverted => simp [hinverted, eq_comm]
        · next hordered => simp [hordered]

end DataMapping

private theorem faults_iff_lacks (hsupported : chartType ∉ unsupportedTypes)
    (hc : chartType ≠ .gauge) :
    Faults chartType m config e ↔ m.Lacks chartType chartType.roles e := by
  constructor
  · intro h
    cases h with
    | unsupported h => exact absurd h hsupported
    | missingRole h => exact ⟨_, h, rfl⟩
    | missingGaugeBounds h => exact absurd h hc
    | invertedGaugeBounds h => exact absurd h hc
  · rintro ⟨role, h, rfl⟩
    exact .missingRole h

private theorem faults_iff_of_unsupported (hc : chartType ∈ unsupportedTypes) :
    Faults chartType m config e ↔ e = .unsupported chartType := by
  constructor
  · intro h
    cases h with
    | unsupported => rfl
    | missingRole h =>
      simp only [unsupportedTypes, List.mem_cons, List.not_mem_nil, or_false] at hc
      rcases hc with rfl | rfl | rfl | rfl | rfl <;> cases h
    | missingGaugeBounds h =>
      subst h
      exact absurd hc (by decide)
    | invertedGaugeBounds h =>
      subst h
      exact absurd hc (by decide)
  · rintro rfl
    exact .unsupported hc

private theorem ChartData.ofRows_eq_error_iff :
    ChartData.ofRows chartType rows m config = .error e ↔ Faults chartType m config e := by
  have hdrawn {payload? : Except MappingError ChartPayload} :
      (do
        let payload ← payload?
        return ⟨chartType, payload, config.chartOptions chartType⟩ :
          Except MappingError ChartData) = .error e ↔ payload? = .error e := by
    cases payload? <;> simp [bind, Except.bind, pure, Except.pure]
  cases chartType with
  | pie | donut | polar | funnel =>
    rw [faults_iff_lacks (by decide) (by decide)]
    exact hdrawn.trans DataMapping.categorical_eq_error_iff
  | bar | line | area | radar =>
    rw [faults_iff_lacks (by decide) (by decide)]
    exact hdrawn.trans DataMapping.axes_eq_error_iff
  | scatter =>
    rw [faults_iff_lacks (by decide) (by decide)]
    exact hdrawn.trans DataMapping.scatter_eq_error_iff
  | table =>
    rw [faults_iff_lacks (by decide) (by decide)]
    exact hdrawn.trans DataMapping.table_eq_error_iff
  | card =>
    rw [faults_iff_lacks (by decide) (by decide)]
    exact hdrawn.trans DataMapping.card_eq_error_iff
  | gauge => exact hdrawn.trans DataMapping.gauge_eq_error_iff
  | bubble | heatmap | treemap | sankey | wordcloud =>
    rw [faults_iff_of_unsupported (by decide), eq_comm (a := e)]
    exact hdrawn.trans (by rw [Except.error.injEq])

private theorem Decimal.isFinite_of_parse? {cs : List Char} {x : Float} (h : parse? cs = some x) :
    x.isFinite = true := by
  rw [parse?] at h
  dsimp only at h
  split at h
  · cases h
  · next l _ =>
    split at h
    · next hfinite =>
      cases h
      split
      · exact isFinite_neg hfinite
      · exact hfinite
    · cases h

private theorem Json.IsProper.isFinite_of_float? {v : Json} (hv : v.IsProper) {x : Float}
    (h : v.float? = some x) : x.isFinite = true := by
  cases v with
  | number n =>
    cases h
    exact Number.IsProper.isFinite_toFloat hv
  | string s => exact Decimal.isFinite_of_parse? h
  | bool b => cases b <;> cases h <;> decide +kernel
  | null | array | object => cases h

private theorem DataMapping.gauge_within (hlow : ∀ low ∈ config.min, low.isNaN = false)
    (hhigh : ∀ high ∈ config.max, high.isNaN = false)
    (hrows : ∀ row ∈ rows, Json.AreProperFields row) {payload : ChartPayload}
    (h : m.gauge chartType config rows = .ok payload) :
    ∃ value low high, config.min = some low ∧ config.max = some high ∧
      payload = .gauge value low high ∧ low ≤ value ∧ value ≤ high := by
  cases hvalue : m.value with
  | none =>
    rw [gauge, hvalue] at h
    cases h
  | some field =>
    rw [gauge_of_value hvalue] at h
    split at h
    · next low high hmin hmax =>
      split at h
      · cases h
      · next hbounds =>
        cases h
        have hcell : ((rows.head?.bind fun row ↦ cellFloat? row field).getD low).isNaN = false := by
          cases hraw : rows.head?.bind fun row ↦ cellFloat? row field with
          | none => exact hlow low hmin
          | some x =>
            obtain ⟨row, hrow, hread⟩ := Option.bind_eq_some_iff.mp hraw
            obtain ⟨v, hv, hnumber⟩ := Option.bind_eq_some_iff.mp hread
            obtain ⟨p, hp, rfl⟩ := Option.map_eq_some_iff.mp hv
            have hproper : p.2.IsProper := Json.areProperFields_iff.mp
              (hrows row (List.mem_of_head? hrow)) p (List.mem_of_find?_eq_some hp)
            exact isNaN_of_isFinite (hproper.isFinite_of_float? hnumber)
        exact ⟨_, low, high, hmin, hmax, rfl,
          clamp_within (hlow low hmin) (hhigh high hmax) hcell hbounds⟩
    · cases h

/-- Rows are drawn alike as far as errors go: all rows or none, and for one reason. A gauge that is
drawn stays within its bounds. -/
theorem ChartData.ofRows_errors (chartType : ChartType) (m : DataMapping) (config : ChartConfig) :
    (∀ rows rows', (∃ chart chart', ChartData.ofRows chartType rows m config = .ok chart ∧
        ChartData.ofRows chartType rows' m config = .ok chart') ∨
      ∃ e, ChartData.ofRows chartType rows m config = .error e ∧
        ChartData.ofRows chartType rows' m config = .error e) ∧
    (∀ rows e, ChartData.ofRows chartType rows m config = .error e ↔ Faults chartType m config e) ∧
    (chartType = .gauge → (∀ low ∈ config.min, low.isNaN = false) →
      (∀ high ∈ config.max, high.isNaN = false) →
      ∀ rows chart, (∀ row ∈ rows, Json.AreProperFields row) →
        ChartData.ofRows chartType rows m config = .ok chart →
        ∃ value low high, config.min = some low ∧ config.max = some high ∧
          chart.payload = .gauge value low high ∧ low ≤ value ∧ value ≤ high) := by
  refine ⟨fun rows rows' ↦ ?_, fun rows e ↦ ofRows_eq_error_iff, ?_⟩
  · cases h : ChartData.ofRows chartType rows m config with
    | error e => exact .inr ⟨e, rfl, ofRows_eq_error_iff.mpr (ofRows_eq_error_iff.mp h)⟩
    | ok chart =>
      cases h' : ChartData.ofRows chartType rows' m config with
      | ok chart' => exact .inl ⟨chart, chart', rfl, rfl⟩
      | error e =>
        rw [ofRows_eq_error_iff.mpr (ofRows_eq_error_iff.mp h')] at h
        cases h
  · rintro rfl hlow hhigh rows chart hrows h
    have hpayload : m.gauge .gauge config rows = .ok chart.payload := by
      unfold ofRows at h
      dsimp only at h
      cases hg : m.gauge .gauge config rows with
      | error e =>
        rw [hg] at h
        cases h
      | ok payload =>
        rw [hg] at h
        cases h
        rfl
    exact DataMapping.gauge_within hlow hhigh hrows hpayload

/-- A load beyond the upper bound of a gauge is shown within its bounds. Two fields are missing from
a line, and the horizontal one is named. -/
theorem ofRows_errors_load :
    let config : ChartConfig := { min := some 0, max := some 100 }
    let m : DataMapping := { value := some "load" }
    let rows : List Fields := [[("load", .string "250")]]
    (∃ chart value, ChartData.ofRows .gauge rows m config = .ok chart ∧
      chart.payload = .gauge value 0 100 ∧ 0 ≤ value ∧ value ≤ 100) ∧
    ChartData.ofRows .line rows m config = .error (.missingRole .line .x) := by
  intro config m rows
  obtain ⟨-, herror, hgauge⟩ := ChartData.ofRows_errors .gauge m config
  obtain ⟨-, hline, -⟩ := ChartData.ofRows_errors .line m config
  have hlow : ∀ low ∈ config.min, low.isNaN = false := by
    rintro low ⟨⟩
    decide +kernel
  have hhigh : ∀ high ∈ config.max, high.isNaN = false := by
    rintro high ⟨⟩
    decide +kernel
  have hrows : ∀ row ∈ rows, Json.AreProperFields row := by
    simp [rows, Json.AreProperFields, Json.IsProper]
  have hbounds : ¬ (0 : Float) > 100 := by decide +kernel
  have hok : ∃ chart, ChartData.ofRows .gauge rows m config = .ok chart := by
    cases hrun : ChartData.ofRows .gauge rows m config with
    | ok chart => exact ⟨chart, rfl⟩
    | error e =>
      cases (herror rows e).mp hrun with
      | unsupported h => exact absurd h (by decide)
      | missingRole h => cases h
      | missingGaugeBounds _ _ h => rcases h with h | h <;> cases h
      | invertedGaugeBounds _ _ hmin hmax h =>
        cases hmin
        cases hmax
        exact absurd h hbounds
  obtain ⟨chart, hchart⟩ := hok
  obtain ⟨value, low, high, hmin, hmax, hpayload, hwithin⟩ :=
    hgauge rfl hlow hhigh rows chart hrows hchart
  cases hmin
  cases hmax
  exact ⟨⟨chart, value, hchart, hpayload, hwithin⟩, (hline rows _).mpr (.missingRole rfl)⟩

end TabularReport

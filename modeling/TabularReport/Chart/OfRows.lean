import TabularReport.Chart.Basic
import TabularReport.Filter.Fragment
import TabularReport.Json.Reading

/-!
# Charts of rows

`ChartData.ofRows` draws rows. The roles of a chart are checked before any row is read, so whether it
succeeds does not depend on the rows. Missing cells count as zero and as the empty label.
-/

namespace TabularReport

/-- The place of a floating-point number in the total order: `-0.0` comes before `0.0`. -/
def floatRank (x : Float) : Int :=
  let bits := x.toBits.toNat
  if bits < Nat.pow 2 63 then (bits : Int) else -((bits - Nat.pow 2 63 : Nat) : Int) - 1

/-- A number cut to bounds. -/
def clamp (low high x : Float) : Float :=
  let x := if x < low then low else x
  if x > high then high else x

/-- The numeric reading of a cell. -/
def cellFloat? (row : Fields) (field : String) : Option Float :=
  (Fields.get? row field).bind Json.float?

/-- The numeric reading of a cell, zero without one. -/
def cellFloat (row : Fields) (field : String) : Float := (cellFloat? row field).getD 0

/-- The text of a cell, empty without one. -/
def cellLabel (row : Fields) (field : String) : String := ((Fields.get? row field).map Json.label).getD ""

/-- Pairs in falling order of their values, those of equal value in the order given. -/
def fallingOrder (pairs : List (String × Float)) : List (String × Float) :=
  pairs.mergeSort fun a b => floatRank b.2 ≤ floatRank a.2

/-- The first `n` of the colors repeated over and over; none when there are no colors. -/
def cycledColors (colors : List String) (n : Nat) : List String :=
  (List.range n).filterMap fun i => colors[i % colors.length]?

/-- The rows that have a label, those with a label met before left out. -/
def labelledRows (field : String) : List String → List Fields → List (String × Fields)
  | _, [] => []
  | seen, row :: rest =>
    if Json.absent (Fields.get? row field) then labelledRows field seen rest
    else
      let label := cellLabel row field
      if seen.contains label then labelledRows field seen rest
      else (label, row) :: labelledRows field (label :: seen) rest

/-- Labelled rows in the order of the instants that their labels denote; as they are unless all labels
denote instants. -/
def inDateOrder (rows : List (String × Fields)) : List (String × Fields) :=
  match rows.mapM fun r => (Instant.ofText? r.1).map fun t => (t, r) with
  | some dated => (dated.mergeSort fun a b => a.1.le b.1).map (·.2)
  | none => rows

namespace DataMapping

/-- The field that plays a role. -/
def require {α : Type} (chartType : ChartType) (role : ChartRole) :
    Option α → Except MappingError α
  | some field => .ok field
  | none => .error (.missingRole chartType role)

/-- The fields of the vertical axis, at least one. -/
def axisFields (chartType : ChartType) (m : DataMapping) : Except MappingError (List String) :=
  match m.y.map (·.fields) with
  | none | some [] => .error (.missingRole chartType .y)
  | some fields => .ok fields

/-- The label of the data set of a field. -/
def seriesLabel (m : DataMapping) (index : Nat) (field : String) : String :=
  (m.series[index]?).getD field

/-- One data set whose labels and values come from the same rows. -/
def categorical (m : DataMapping) (chartType : ChartType) (config : ChartConfig) (rows : List Fields) :
    Except MappingError ChartPayload := do
  let labels ← require chartType .labels m.labels
  let values ← require chartType .values m.values
  let pairs := rows.map fun row => (cellLabel row labels, cellFloat row values)
  let pairs := if chartType = .funnel then fallingOrder pairs else pairs
  return .series (pairs.map (·.1))
    [⟨values, pairs.map (·.2), cycledColors config.colors pairs.length⟩]

/-- A data set for each field of the vertical axis over the labels of the horizontal one. -/
def axes (m : DataMapping) (chartType : ChartType) (config : ChartConfig) (rows : List Fields) :
    Except MappingError ChartPayload := do
  let x ← require chartType .x m.x
  let fields ← m.axisFields chartType
  let labelled := labelledRows x [] rows
  let labelled := if chartType = .radar then labelled else inDateOrder labelled
  let dataset (field : String) (i : Nat) : Dataset :=
    ⟨m.seriesLabel i field, labelled.map fun r => cellFloat r.2 field,
      (config.colors[i % Nat.max 1 config.colors.length]?).toList⟩
  return .series (labelled.map (·.1)) (fields.zipIdx.map fun (field, i) => dataset field i)

/-- A list of points for each field of the vertical axis, one for each row that has both numbers. -/
def scatter (m : DataMapping) (chartType : ChartType) (rows : List Fields) :
    Except MappingError ChartPayload := do
  let x ← require chartType .x m.x
  let fields ← m.axisFields chartType
  let point (field : String) (row : Fields) : Option Point := do
    return ⟨← cellFloat? row x, ← cellFloat? row field⟩
  return .points (fields.zipIdx.map fun (field, i) => ⟨m.seriesLabel i field, rows.filterMap (point field)⟩)

/-- The chosen columns of the rows; a column without a title goes by its field. -/
def table (m : DataMapping) (chartType : ChartType) (rows : List Fields) :
    Except MappingError ChartPayload :=
  if m.columns.isEmpty then .error (.missingRole chartType .columns)
  else
    let columns := m.columns.map fun c => if c.title.isEmpty then { c with title := c.field } else c
    .ok <| .table columns <| rows.map fun row =>
      Fields.ofList (columns.map fun c => (c.field, (Fields.get? row c.field).getD .null))

/-- How far, in per cent of a number, it lies above an earlier one. -/
def growth (current previous : Option Float) : Option Float :=
  match current, previous with
  | some c, some p => if c == 0 then none else some ((c - p) / c * 100)
  | _, _ => none

/-- The first row's value, zero without one, beside an earlier value to compare it with. -/
def card (m : DataMapping) (chartType : ChartType) (config : ChartConfig) (rows : List Fields) :
    Except MappingError ChartPayload := do
  let field ← require chartType .value m.value
  let cell (field : String) : Option Json :=
    rows.head?.bind fun row => (Fields.get? row field).bind Json.present?
  let value := (cell field).getD (.ofNat 0)
  let trend := m.trend.bind cell
  return .card value trend (growth value.float? (trend.bind Json.float?)) config.format

/-- The first row's number within the bounds, the lower bound without one. -/
def gauge (m : DataMapping) (chartType : ChartType) (config : ChartConfig) (rows : List Fields) :
    Except MappingError ChartPayload := do
  let field ← require chartType .value m.value
  match config.min, config.max with
  | some low, some high =>
    if low > high then .error (.invertedGaugeBounds low high)
    else
      let value := (rows.head?.bind fun row => cellFloat? row field).getD low
      .ok (.gauge (clamp low high value) low high)
  | _, _ => .error .missingGaugeBounds

end DataMapping

/-- The options of a chart: those that follow from its type and configuration, and over them those that
are handed on. -/
def ChartConfig.chartOptions (c : ChartConfig) (chartType : ChartType) : Fields :=
  let hole : Option Json := match chartType with
    | .donut => some (.string "50%")
    | .pie => some (.ofNat 0)
    | _ => none
  let derived := [("title", c.title.map .string), ("showLegend", c.showLegend.map .bool),
    ("stacked", c.stacked.map .bool), ("format", c.format.map .string), ("cutout", hole)]
  (Fields.ofList (derived.filterMap fun (key, value) => value.map (key, ·))).overlay c.options

/-- Draw rows as a chart. -/
def ChartData.ofRows (chartType : ChartType) (rows : List Fields) (m : DataMapping) (c : ChartConfig) :
    Except MappingError ChartData := do
  let payload ← match chartType with
    | .pie | .donut | .polar | .funnel => m.categorical chartType c rows
    | .bar | .line | .area | .radar => m.axes chartType c rows
    | .scatter => m.scatter chartType rows
    | .table => m.table chartType rows
    | .card => m.card chartType c rows
    | .gauge => m.gauge chartType c rows
    | .bubble | .heatmap | .treemap | .sankey | .wordcloud => .error (.unsupported chartType)
  return ⟨chartType, payload, c.chartOptions chartType⟩

end TabularReport
